import GroundStation.Message.Function
import GroundStation.Text.Hex

/-!
The address of a message: from the lowest bit up, seven bits name the node, four the function and
eighteen hold an extension. The three bits above them carry nothing.
-/

namespace GroundStation

structure Address where
  node : UInt8
  functionCode : UInt8
  extension : UInt32
deriving DecidableEq, Repr

namespace Address

/-- The address whose parts are the given ones, each cut to its width. -/
def compose (node functionCode : UInt8) (extension : UInt32) : Address where
  node := node &&& 0x7F
  functionCode := functionCode &&& 0xF
  extension := extension &&& 0x3FFFF

def ofRaw (raw : UInt32) : Address where
  node := (raw &&& 0x7F).toUInt8
  functionCode := ((raw >>> 7) &&& 0xF).toUInt8
  extension := (raw >>> 11) &&& 0x3FFFF

def toRaw (address : Address) : UInt32 :=
  address.node.toUInt32 ||| (address.functionCode.toUInt32 <<< 7) ||| (address.extension <<< 11)

/-- The function that the address names, if its code is assigned. -/
def function? (address : Address) : Option Function :=
  Function.ofCode? address.functionCode

def text (address : Address) : String :=
  let node := Text.hexPadded 2 address.node.toNat
  let function := Text.hex address.functionCode.toNat
  let extension := Text.hexPadded 5 address.extension.toNat
  s!"node=0x{node} func=0x{function} ext=0x{extension}"

end Address

end GroundStation
