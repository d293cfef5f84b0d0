import GroundStation.Proofs.Frame.Session

/-!
The queue of bytes is a list of at most 256 bytes. Whatever was pushed, dropped and cleared before,
and wherever the oldest byte lies in the store by then, every operation does to the queue what the
plain list operation does to the list, and every question about the queue has the answer that the list
gives. The copies of a push never leave the store, so a push never halts. Copying out halts exactly if
it asks for more than is held. A receiver asks only for bytes that its queue holds, so its looks never
halt.
-/

namespace GroundStation

namespace ByteQueue

inductive Call where
  | push (bytes : List UInt8)
  | drop (count : Nat)
  | clear
deriving DecidableEq, Repr

def call (queue : ByteQueue) : Call → ByteQueue
  | .push bytes => (queue.push bytes).2
  | .drop count => queue.drop count
  | .clear => queue.clear

def run (queue : ByteQueue) (calls : List Call) : ByteQueue :=
  calls.foldl call queue

/-- What a call does to a list that may not grow beyond the capacity. -/
def Call.act (held : List UInt8) : Call → List UInt8
  | .push bytes => held ++ bytes.take (capacity - held.length)
  | .drop count => held.drop count
  | .clear => []

/-- Among the `count` places from `start` on, place `i` is the first that has `byte`. -/
structure FirstAt (held : List UInt8) (byte : UInt8) (start count i : Nat) : Prop where
  from_start : start ≤ i
  within : i < start + count
  hit : held[i]? = some byte
  first : ∀ j, start ≤ j → j < i → held[j]? ≠ some byte

/-- A call does to the queue what it does to the list of its bytes. -/
theorem toList_call (queue : ByteQueue) (call : Call) :
    (queue.call call).toList = call.act queue.toList := by
  cases call with
  | push bytes =>
      rw [Call.act, length_toList]
      exact queue.toList_push bytes
  | drop count => exact queue.toList_drop count
  | clear => exact queue.toList_clear

/-- So does a run of calls. -/
theorem toList_run (queue : ByteQueue) (calls : List Call) :
    (queue.run calls).toList = calls.foldl Call.act queue.toList := by
  induction calls generalizing queue with
  | nil => rfl
  | cons call rest ih =>
      rw [List.foldl_cons, ← toList_call]
      exact ih (queue.call call)

theorem getElem?_toList_eq_some_iff (queue : ByteQueue) (i : Nat) (byte : UInt8) :
    queue.toList[i]? = some byte ↔ i < queue.size ∧ queue.get i = byte := by
  rw [List.getElem?_eq_some_iff]
  constructor
  · rintro ⟨hheld, hbyte⟩
    exact ⟨by simpa using hheld, by rwa [getElem_toList] at hbyte⟩
  · rintro ⟨hheld, hbyte⟩
    exact ⟨by simpa using hheld, by rwa [getElem_toList]⟩

/-- A search finds the first place of the byte in its range. -/
theorem find?_eq_some_iff (queue : ByteQueue) (byte : UInt8) (start count i : Nat) :
    queue.find? byte start count = some i ↔ FirstAt queue.toList byte start count i := by
  rw [find?, List.find?_range'_eq_some]
  simp only [beq_iff_eq, List.mem_range'_1, Bool.not_eq_eq_eq_not, Bool.not_true,
    beq_eq_false_iff_ne]
  constructor
  · rintro ⟨hhit, ⟨hfrom, hbound⟩, hfirst⟩
    refine ⟨hfrom, by omega, ?_, ?_⟩
    · rw [getElem?_toList_eq_some_iff]
      exact ⟨by omega, hhit⟩
    · intro j hj hbefore hsome
      exact hfirst j hj hbefore ((queue.getElem?_toList_eq_some_iff j byte).mp hsome).2
  · rintro ⟨hfrom, hwithin, hhit, hfirst⟩
    obtain ⟨hheld, hbyte⟩ := (queue.getElem?_toList_eq_some_iff i byte).mp hhit
    refine ⟨hbyte, ⟨hfrom, by omega⟩, ?_⟩
    intro j hj hbefore hsame
    have hearlier : j < queue.size := by omega
    exact hfirst j hj hbefore ((queue.getElem?_toList_eq_some_iff j byte).mpr ⟨hearlier, hsame⟩)

/-- A search fails if the byte is nowhere in its range. -/
theorem find?_eq_none_iff (queue : ByteQueue) (byte : UInt8) (start count : Nat) :
    queue.find? byte start count = none ↔
      ∀ i, start ≤ i → i < start + count → queue.toList[i]? ≠ some byte := by
  rw [find?, List.find?_range'_eq_none]
  simp only [Bool.not_eq_eq_eq_not, Bool.not_true, beq_eq_false_iff_ne]
  constructor
  · intro hnone i hfrom hwithin hsome
    obtain ⟨hheld, hbyte⟩ := (queue.getElem?_toList_eq_some_iff i byte).mp hsome
    exact hnone i hfrom (by omega) hbyte
  · intro hnone i hfrom hbound hbyte
    have hheld : i < queue.size := by omega
    exact hnone i hfrom (by omega) ((queue.getElem?_toList_eq_some_iff i byte).mpr ⟨hheld, hbyte⟩)

end ByteQueue

namespace ByteQueue

/-- After any calls, a queue that was empty at first holds what the same calls leave of a bounded list.
The store is never left and never overfull; each operation acts on the list alone: a push takes what
there is room for and does not halt, a drop may ask for too much, a search finds the first place or
says that there is none, and a copy halts exactly if it reaches past the end. In no state that a
receiver can get into does a look at the queue ask for such a copy. -/
theorem run_refines_bounded_list {σ ε : Type} [ByteSource σ ε] :
    (∀ calls : List Call,
      let queue := empty.run calls
      let held := calls.foldl Call.act []
      queue.toList = held ∧ queue.head.val < 256 ∧ queue.size = held.length ∧
        held.length ≤ 256 ∧
        (∀ bytes,
          let count := min bytes.length (256 - held.length)
          ∃ after, queue.pushChecked bytes = .ok (count, after) ∧
            queue.call (.push bytes) = after ∧ after.toList = held ++ bytes.take count) ∧
        (∀ count, (queue.drop count).toList = held.drop count) ∧
        queue.clear.toList = [] ∧
        (∀ byte start count i,
          queue.find? byte start count = some i ↔ FirstAt held byte start count i) ∧
        (∀ byte start count, queue.find? byte start count = none ↔
          ∀ i, start ≤ i → i < start + count → held[i]? ≠ some byte) ∧
        ∀ offset count (target : Vector UInt8 count),
          (queue.copyInto offset target).map Vector.toList =
            if offset + count ≤ held.length then .ok ((held.drop offset).take count)
            else .error (if offset + count < 2 ^ 64 then .copyPastEnd else .sumOverflow)) ∧
    ∀ (config : Receiver.Config) (calls : List (Receiver.Call σ)),
      let receiver := ((Receiver.Session.start config).run calls).receiver
      receiver.nextChecked = .ok receiver.next := by
  constructor
  · intro calls queue held
    have hlist : queue.toList = held := empty.toList_run calls
    have hsize : queue.size = held.length := by rw [← length_toList, hlist]
    refine ⟨hlist, queue.head.isLt, hsize, hsize ▸ queue.size_le, ?_, ?_, rfl, ?_, ?_, ?_⟩
    · intro bytes count
      have hcount : (queue.push bytes).1 = count := by
        rw [push_fst, free, hsize]
        rfl
      have hpushed : queue.pushChecked bytes = .ok (queue.push bytes) := Halt.eq_ok_result _ _
      refine ⟨(queue.push bytes).2, ?_, rfl, ?_⟩
      · rw [hpushed, ← hcount]
      · rw [toList_push_take, hcount, hlist]
    · intro count
      rw [toList_drop, hlist]
    · intro byte start count i
      rw [find?_eq_some_iff, hlist]
    · intro byte start count
      rw [find?_eq_none_iff, hlist]
    · intro offset count target
      rw [copyInto_eq, hlist, hsize]
      rfl
  · intro config calls receiver
    exact Halt.eq_ok_result _ receiver.isOk_nextChecked

/-- The bytes held lie around the end of the store: the oldest one in cell 240, the newest one in
cell 3. -/
theorem run_refines_bounded_list_wrapped :
    let calls : List Call :=
      [.push (List.replicate 250 7), .drop 240, .push [1, 2, 3, 4, 5, 6, 7, 8, 9, 10]]
    let queue := empty.run calls
    queue.head.val = 240 ∧ queue.size = 20 ∧ FirstAt queue.toList 9 0 20 18 ∧
      queue.find? 9 0 20 = some 18 ∧ queue.find? 9 0 18 = none ∧
      queue.copy 14 4 = .ok [5, 6, 7, 8] ∧ queue.copy 17 4 = .error .copyPastEnd ∧
      queue.copy (2 ^ 64 - 4) 8 = .error .sumOverflow := by
  intro calls queue
  obtain ⟨hlist, _, hsize, _, _, _, _, hfind, hnone, hcopy⟩ :=
    (run_refines_bounded_list (σ := Line)).1 calls
  have hbefore : ∀ i, i < 18 → (calls.foldl Call.act [])[i]? ≠ some 9 := by decide +kernel
  have hfirst : FirstAt (calls.foldl Call.act []) 9 0 20 18 :=
    ⟨by decide, by decide, by decide +kernel, fun j _ => hbefore j⟩
  refine ⟨by decide +kernel, hsize.trans (by decide +kernel), hlist ▸ hfirst,
    (hfind 9 0 20 18).mpr hfirst, (hnone 9 0 18).mpr ?_, (hcopy 14 4 _).trans ?_,
    (hcopy 17 4 _).trans ?_, (hcopy (2 ^ 64 - 4) 8 _).trans ?_⟩
  · intro i _ hi
    exact hbefore i (by omega)
  · decide +kernel
  · decide +kernel
  · decide +kernel

end ByteQueue

end GroundStation
