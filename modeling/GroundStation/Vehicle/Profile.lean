import GroundStation.Vehicle.Codebook
import GroundStation.Vehicle.Layout
import GroundStation.Vehicle.Registry

/-!
All that is known about a vehicle before it sends anything.
-/

namespace GroundStation

structure Profile where
  registry : Registry := {}
  layout : Layout := {}
  codebook : Codebook := .standard

end GroundStation
