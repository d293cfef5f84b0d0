import GroundStation.Proofs.Command.Codec
import GroundStation.Proofs.Desk.Journal
import GroundStation.Station

/-!
What the station writes. Texts are submitted and the station is closed in any order. Each text that is
a command and comes before the first close becomes one frame, and nothing else gets onto the line, so
the far end recovers the commands by cutting the stream into blocks of frame size. A text that is no
command is answered with a notice and an error, whether or not the station is closed; a command that
comes too late is answered with an error only.
-/

namespace GroundStation

namespace Line

/-- A line without faults takes everything at once. -/
theorem writeAll_of_normal {line : Line} (hline : line.writeMode = .normal) (bytes : List UInt8) :
    line.writeAll bytes = (.ok (), { line with outbound := line.outbound ++ bytes }) := by
  cases bytes with
  | nil => rw [writeAll, if_pos rfl, List.append_nil]
  | cons byte rest =>
      have hwrite : line.write (byte :: rest) =
          (.ok (rest.length + 1), { line with outbound := line.outbound ++ byte :: rest }) := by
        simp only [write, hline, Nat.min_self, List.length_cons, List.take_succ_cons,
          List.take_length]
      have hnothing : (byte :: rest).drop (rest.length + 1) = [] :=
        List.drop_eq_nil_of_le (Nat.le_refl _)
      rw [writeAll, if_neg (List.cons_ne_nil _ _), hwrite]
      dsimp only
      rw [hnothing, writeAll, if_pos rfl]

theorem flush_of_normal {line : Line} (hline : line.writeMode = .normal) :
    line.flush = .ok () := by
  rw [flush, hline]

end Line

namespace Bridge

theorem eq_of_start {bridge started : Bridge} (hstart : bridge.start = (.ok (), started)) :
    bridge.closed = false ∧ started = { bridge with running := true, parked := false } := by
  unfold start at hstart
  split at hstart
  · cases hstart
  rename_i hopen
  split at hstart
  · cases hstart
  split at hstart
  · cases hstart
    exact ⟨eq_false_of_ne_true hopen, rfl⟩
  · cases hstart

def sent (bridge : Bridge) (command : Command) : Bridge :=
  { bridge with
    line := { bridge.line with outbound := bridge.line.outbound ++ command.frame }
    ownCounters := { bridge.ownCounters with sentFrames := bridge.ownCounters.sentFrames + 1 } }

/-- An open bridge on a sound line writes the frame of the command. -/
theorem send_of_open {bridge : Bridge} (hopen : bridge.closed = false)
    (hline : bridge.line.writeMode = .normal) (command : Command) :
    bridge.send command.payload = (.ok (), bridge.sent command) := by
  have hflush : (bridge.sent command).line.flush = .ok () := Line.flush_of_normal hline
  rw [send, if_neg (by rw [hopen]; exact Bool.false_ne_true), command.outbound_payload,
    Line.writeAll_of_normal hline]
  simp only [sent] at hflush
  simp only [Except.bind, hflush, sent]

/-- A closed bridge writes nothing. -/
theorem send_of_closed {bridge : Bridge} (hclosed : bridge.closed = true) (payload : List UInt8) :
    bridge.send payload = (.error .closed, bridge) := by
  rw [send, if_pos hclosed]

end Bridge

def Desk.rejecting (desk : Desk) (e : CommandError) : Desk :=
  { desk with
    feed := (desk.feed.post .telemetry .warning (Desk.rejectionText e)).2
    counters :=
      { desk.counters with rejectedCommands := desk.counters.rejectedCommands + 1 } }

namespace Station

inductive Order where
  | submit (text : String)
  | close
deriving DecidableEq, Repr

def obey (station : Station) : Order → Station
  | .submit text => (station.submit text).2
  | .close => station.close

def run (station : Station) (orders : List Order) : Station :=
  orders.foldl obey station

def Order.command? : Order → Option Command
  | .submit text => (Command.parse text).toOption
  | .close => none

/-- The commands that are submitted before the first close. -/
def timely (orders : List Order) : List Command :=
  (orders.takeWhile fun order => order ≠ .close).filterMap Order.command?

theorem timely_submit (text : String) (rest : List Order) :
    timely (.submit text :: rest) = (Order.submit text).command?.toList ++ timely rest := by
  rw [timely, List.takeWhile_cons_of_pos (by simp), timely]
  cases hcommand : (Order.submit text).command? with
  | none => rw [List.filterMap_cons_none hcommand, Option.toList_none, List.nil_append]
  | some command => rw [List.filterMap_cons_some hcommand, Option.toList_some, List.singleton_append]

variable {station : Station} {text : String}

/-- A text that is no command is reported and nothing is sent. -/
theorem submit_of_error {e : CommandError} (hparse : Command.parse text = .error e) :
    station.submit text =
      (.error (.invalidCommand e), { station with desk := station.desk.rejecting e }) := by
  rw [submit, Desk.command, hparse]
  rfl

/-- A command is sent as long as the station is open. -/
theorem submit_of_open {command : Command} (hparse : Command.parse text = .ok command)
    (hopen : station.bridge.closed = false) (hline : station.bridge.line.writeMode = .normal) :
    station.submit text = (.ok (), { station with bridge := station.bridge.sent command }) := by
  rw [submit, Desk.command, hparse]
  simp only [Bridge.send_of_open hopen hline]

/-- A command that comes too late changes nothing. -/
theorem submit_of_closed {command : Command} (hparse : Command.parse text = .ok command)
    (hclosed : station.bridge.closed = true) :
    station.submit text = (.error (.link .closed), station) := by
  rw [submit, Desk.command, hparse]
  simp only [Bridge.send_of_closed hclosed]

theorem counters_rejecting (station : Station) (e : CommandError) :
    { station with desk := station.desk.rejecting e }.counters =
      { station.counters with
        rejectedCommands := station.counters.rejectedCommands + 1 } := by
  change Counters.add _ _ = _
  rw [Counters.add]
  congr 1
  exact Nat.add_right_comm _ _ _

theorem counters_sent (station : Station) (command : Command) :
    { station with bridge := station.bridge.sent command }.counters =
      { station.counters with sentFrames := station.counters.sentFrames + 1 } := by
  have hsum (desk own receiver : Nat) :
      desk + (own + 1 + receiver) = desk + (own + receiver) + 1 := by omega
  change Counters.add _ (Counters.add _ _) = _
  rw [Counters.add, Counters.add]
  congr 1
  exact hsum _ _ _

/-- What a station wrote on its way from one point to another: the frames of the given commands, each
counted as sent. Nobody stops listening to its feed. -/
structure Wrote (before : Station) (commands : List Command) (after : Station) : Prop where
  line : after.bridge.line =
    { before.bridge.line with
      outbound := before.bridge.line.outbound ++ commands.flatMap Command.frame }
  sent : after.counters.sentFrames = before.counters.sentFrames + commands.length
  live : after.desk.feed.live = before.desk.feed.live

theorem Wrote.trans {first second third : Station} {earlier later : List Command}
    (h : Wrote first earlier second) (h' : Wrote second later third) :
    Wrote first (earlier ++ later) third where
  line := by rw [h'.line, h.line, List.flatMap_append, List.append_assoc]
  sent := by rw [h'.sent, h.sent, List.length_append, Nat.add_assoc]
  live := h'.live.trans h.live

theorem Wrote.nothing {before after : Station} (hline : after.bridge.line = before.bridge.line)
    (hsent : after.counters.sentFrames = before.counters.sentFrames)
    (hlive : after.desk.feed.live = before.desk.feed.live) : Wrote before [] after where
  line := by rw [hline, List.flatMap_nil, List.append_nil]
  sent := hsent
  live := hlive

/-- Closing a bridge writes and counts nothing. -/
theorem close_keeps (bridge : Bridge) :
    bridge.close.closed = true ∧ bridge.close.line = bridge.line ∧
      bridge.close.counters = bridge.counters := by
  unfold Bridge.close
  split
  · rename_i hclosed
    exact ⟨hclosed, rfl, rfl⟩
  · exact ⟨rfl, rfl, rfl⟩

/-- An order writes the command that it submits, unless the station is closed. -/
theorem obey_wrote (hline : station.bridge.line.writeMode = .normal) (order : Order) :
    Wrote station (if station.bridge.closed then [] else order.command?.toList)
        (station.obey order) ∧
      (station.obey order).bridge.closed =
        (station.bridge.closed || decide (order = .close)) := by
  cases order with
  | close =>
      obtain ⟨hclosed, hkept, hcounters⟩ := close_keeps station.bridge
      rw [Order.command?, Option.toList_none, ite_self, decide_eq_true rfl, Bool.or_true]
      refine ⟨.nothing hkept ?_ rfl, hclosed⟩
      simp only [obey, close, counters, hcounters]
  | submit text =>
      rw [decide_eq_false (by simp), Bool.or_false, obey, Order.command?]
      cases hparse : Command.parse text with
      | error e =>
          rw [submit_of_error hparse, Except.toOption, Option.toList_none, ite_self]
          refine ⟨.nothing rfl ?_ (Feed.live_post _ _ _ _), rfl⟩
          rw [counters_rejecting]
      | ok command =>
          rw [Except.toOption, Option.toList_some]
          cases hclosed : station.bridge.closed with
          | true =>
              rw [submit_of_closed hparse hclosed, if_pos rfl]
              exact ⟨.nothing rfl rfl rfl, hclosed⟩
          | false =>
              rw [submit_of_open hparse hclosed hline, if_neg Bool.false_ne_true]
              refine ⟨⟨?_, ?_, rfl⟩, hclosed⟩
              · rw [List.flatMap_singleton]
                rfl
              · rw [counters_sent, List.length_singleton]

/-- A run of orders writes the commands that come before the first close. -/
theorem run_wrote (hline : station.bridge.line.writeMode = .normal) (orders : List Order) :
    Wrote station (if station.bridge.closed then [] else timely orders) (station.run orders) ∧
      (station.run orders).bridge.closed =
        (station.bridge.closed || decide (.close ∈ orders)) := by
  induction orders generalizing station with
  | nil =>
      rw [timely, List.takeWhile_nil, List.filterMap_nil, ite_self]
      exact ⟨.nothing rfl rfl rfl, (Bool.or_false _).symm⟩
  | cons order rest ih =>
      obtain ⟨hfirst, hclosed⟩ := obey_wrote hline order
      have hnormal : (station.obey order).bridge.line.writeMode = .normal := by
        rw [hfirst.line]
        exact hline
      obtain ⟨hrest, hfinal⟩ := ih hnormal
      have hcommands : (if station.bridge.closed then [] else timely (order :: rest)) =
          (if station.bridge.closed then [] else order.command?.toList) ++
            if (station.obey order).bridge.closed then [] else timely rest := by
        rw [hclosed]
        cases station.bridge.closed with
        | true => rfl
        | false =>
            cases order with
            | close => rfl
            | submit text => exact timely_submit text rest
      constructor
      · rw [hcommands]
        exact hfirst.trans hrest
      · change ((station.obey order).run rest).bridge.closed = _
        rw [hfinal, hclosed]
        simp [Bool.or_assoc, eq_comm]

/-- A station that was just set up is open, on the line of its bridge, and somebody listens. -/
theorem open_of_start {bridge : Bridge} {profile : Profile}
    (hstart : start bridge profile = .ok station) :
    station.bridge.closed = false ∧ station.bridge.line = bridge.line ∧
      station.desk.feed.live = true := by
  unfold start at hstart
  split at hstart
  · cases hstart
  rename_i desk hdesk
  split at hstart
  · cases hstart
  rename_i started hbridge
  cases hstart
  obtain ⟨hopen, rfl⟩ := Bridge.eq_of_start hbridge
  exact ⟨hopen, rfl, by rw [Desk.eq_of_start hdesk]⟩

/-- The frames of the commands that are submitted before the first close are all that a station
writes, in the order of the commands; each is eleven bytes long and counted as sent, and the far end
reads the commands back from the stream. At every point a text that is no command is answered with an
error, one warning on the telemetry channel and one more rejected command; a command is sent while the
station is open, and is answered with an error and nothing else once it is closed. -/
theorem written_frames_of_timely_commands {bridge : Bridge} {profile : Profile}
    (hstart : start bridge profile = .ok station) (hline : bridge.line.writeMode = .normal)
    (orders : List Order) :
    let after := station.run orders
    let written := (timely orders).flatMap Command.frame
    after.bridge.line.outbound = bridge.line.outbound ++ written ∧
      (∀ command : Command, command.frame.length = 11) ∧
      Command.ofStream? written = some (timely orders) ∧
      after.counters.sentFrames = station.counters.sentFrames + (timely orders).length ∧
      ∀ text,
        let answer := after.submit text
        match Command.parse text with
        | .error e =>
          answer.1 = .error (.invalidCommand e) ∧ answer.2.bridge = after.bridge ∧
            answer.2.desk.feed.events.toList = after.desk.feed.events.toList ++
              [.post after.desk.feed.nextId .telemetry .warning (Desk.rejectionText e)] ∧
            answer.2.counters = { after.counters with
              rejectedCommands := after.counters.rejectedCommands + 1 }
        | .ok command =>
          if .close ∈ orders then
            answer.1 = .error (.link .closed) ∧ answer.2 = after
          else
            answer.1 = .ok () ∧ answer.2.desk = after.desk ∧
              answer.2.bridge.line.outbound = after.bridge.line.outbound ++ command.frame ∧
              answer.2.counters =
                { after.counters with sentFrames := after.counters.sentFrames + 1 } := by
  intro after written
  obtain ⟨hopen, hsame, hlive⟩ := open_of_start hstart
  have hnormal : station.bridge.line.writeMode = .normal := by rw [hsame, hline]
  obtain ⟨hwrote, hclosed⟩ := run_wrote hnormal orders
  rw [hopen, if_neg Bool.false_ne_true] at hwrote
  rw [hopen, Bool.false_or] at hclosed
  have hafter : after.bridge.line.writeMode = .normal := by
    rw [hwrote.line]
    exact hnormal
  refine ⟨?_, Command.length_frame, Command.ofStream?_flatMap_frame _, hwrote.sent, ?_⟩
  · rw [hwrote.line, hsame]
  intro text answer
  cases hparse : Command.parse text with
  | error e =>
      have hanswer : answer = _ := submit_of_error hparse
      dsimp only
      rw [hanswer]
      exact ⟨rfl, rfl, Feed.toList_post (hwrote.live.trans hlive) _ _ _, counters_rejecting after e⟩
  | ok command =>
      dsimp only
      split
      · rename_i hmem
        have hanswer : answer = _ :=
          submit_of_closed hparse (hclosed.trans (decide_eq_true hmem))
        rw [hanswer]
        exact ⟨rfl, rfl⟩
      · rename_i hmem
        have hanswer : answer = _ :=
          submit_of_open hparse (hclosed.trans (decide_eq_false hmem)) hafter
        rw [hanswer]
        exact ⟨rfl, rfl, rfl, counters_sent after command⟩

/-- Two commands are sent, one text is rejected while the station is open and one after it was closed,
and one command comes too late. -/
theorem written_frames_of_timely_commands_late_command :
    let bridge : Bridge := { device := "mem" }
    let profile : Profile := {}
    let station : Station :=
      { desk := { profile, countdowns := .seeded profile.registry.monitored }
        bridge := { bridge with running := true, parked := false } }
    let orders : List Order :=
      [.submit " updateValue -1_0", .submit "stop", .submit "updateValue +7", .close,
        .submit "updateValue 2147483648"]
    let after := station.run orders
    start bridge profile = .ok station ∧ bridge.line.writeMode = .normal ∧
      timely orders = [⟨-10⟩, ⟨7⟩] ∧
      after.bridge.line.outbound = Command.frame ⟨-10⟩ ++ Command.frame ⟨7⟩ ∧
      Command.frame ⟨-10⟩ = [0xFF, 0x09, 0x00, 0xF6, 0xFF, 0xFF, 0xFF, 0, 0, 0, 0] ∧
      after.counters.sentFrames = 2 ∧ after.counters.rejectedCommands = 2 ∧
      (after.submit "updateValue 1").1 = .error (.link .closed) := by
  intro bridge profile station orders after
  have hcheck : ({} : Profile).layout.check = .ok () := Layout.check_default
  have hstart : start bridge profile = .ok station := by
    rw [start, Desk.start_of_check hcheck]
    rfl
  have htimely : timely orders = [⟨-10⟩, ⟨7⟩] := by decide +kernel
  obtain ⟨hwritten, _, _, hsent, hanswer⟩ :=
    written_frames_of_timely_commands hstart rfl orders
  rw [htimely] at hwritten hsent
  refine ⟨hstart, rfl, htimely, ?_, by decide +kernel, hsent, by decide +kernel, ?_⟩
  · rw [List.flatMap_cons, List.flatMap_singleton] at hwritten
    exact hwritten
  · have hparse : Command.parse "updateValue 1" = .ok ⟨1⟩ := rfl
    have hclose : .close ∈ orders := by decide
    have hlate := hanswer "updateValue 1"
    rw [hparse] at hlate
    dsimp only at hlate
    rw [if_pos hclose] at hlate
    exact hlate.1

end Station

end GroundStation
