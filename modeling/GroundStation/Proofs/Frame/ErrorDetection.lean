import Mathlib.Algebra.Order.BigOperators.Group.Finset
import GroundStation.Proofs.Frame.Receiving
import GroundStation.Proofs.Frame.Residue

/-!
Which damage to a frame the checksum shows. A frame consists of words: the checksum field from its
second byte on and the six words of the payload behind it. When one of them is replaced by another
word, a fresh receiver finds the frame invalid, with one exception: a payload word that changes
between zero and all bits set leaves the remainder of the sum as it is, and goes unnoticed unless
all other payload words are zero. A single bit that is turned over never makes this change, so it
always shows.
-/

namespace GroundStation

namespace Frame

def wordAt (bytes : List UInt8) (offset : Nat) : UInt16 :=
  UInt16.ofNat (Bytes.value ((bytes.drop offset).take 2))

def setWord (bytes : List UInt8) (offset : Nat) (word : UInt16) : List UInt8 :=
  bytes.take offset ++ (Bytes.ofNat 2 word.toNat ++ bytes.drop (offset + 2))

def flipBit (bytes : List UInt8) (position : Nat) (bit : Fin 8) : List UInt8 :=
  bytes.set position (bytes.getD position 0 ^^^ (1 <<< UInt8.ofNat bit))

/-- One of the words is zero, and the other has all bits set. -/
def Opposite (word other : UInt16) : Prop :=
  word = 0 ∧ other = 0xFFFF ∨ word = 0xFFFF ∧ other = 0

instance (word other : UInt16) : Decidable (Opposite word other) :=
  inferInstanceAs (Decidable (_ ∨ _))

/-! ### Words of a byte string -/

section Words

variable {bytes : List UInt8} {offset : Nat}

theorem exists_cut (hinside : offset + 2 ≤ bytes.length) :
    ∃ before low high after, bytes = before ++ low :: high :: after ∧ before.length = offset := by
  refine ⟨bytes.take offset, bytes[offset], bytes[offset + 1], bytes.drop (offset + 2), ?_, ?_⟩
  · rw [← List.drop_eq_getElem_cons, ← List.drop_eq_getElem_cons, List.take_append_drop]
  · rw [List.length_take]
    omega

theorem toNat_word (low high : UInt8) :
    (UInt16.ofNat (low.toNat + 256 * high.toNat)).toNat = low.toNat + 256 * high.toNat := by
  have hlow := low.toNat_lt
  have hhigh := high.toNat_lt
  rw [UInt16.toNat_ofNat']
  omega

theorem wordAt_cut (before after : List UInt8) (low high : UInt8) :
    wordAt (before ++ low :: high :: after) before.length =
      UInt16.ofNat (low.toNat + 256 * high.toNat) := by
  simp [wordAt]

theorem setWord_cut (before after : List UInt8) (low high : UInt8) (word : UInt16) :
    setWord (before ++ low :: high :: after) before.length word =
      before ++ (Bytes.ofNat 2 word.toNat ++ after) := by
  rw [setWord, List.take_left, ← List.drop_drop, List.drop_left]
  rfl

theorem setWord_pair (before after : List UInt8) (low high low' high' : UInt8) :
    setWord (before ++ low :: high :: after) before.length
        (UInt16.ofNat (low'.toNat + 256 * high'.toNat)) =
      before ++ low' :: high' :: after := by
  have hwritten := Bytes.ofNat_value [low', high']
  rw [setWord_cut, toNat_word]
  simp only [List.length_cons, List.length_nil, Bytes.value_cons, Bytes.value_nil, Nat.mul_zero,
    Nat.add_zero, Nat.zero_add] at hwritten
  rw [hwritten]
  rfl

/-- Writing the word that is there changes nothing. -/
theorem setWord_wordAt (hinside : offset + 2 ≤ bytes.length) :
    setWord bytes offset (wordAt bytes offset) = bytes := by
  obtain ⟨before, low, high, after, rfl, rfl⟩ := exists_cut hinside
  rw [wordAt_cut, setWord_pair]

theorem length_setWord (hinside : offset + 2 ≤ bytes.length) (word : UInt16) :
    (setWord bytes offset word).length = bytes.length := by
  simp only [setWord, List.length_append, List.length_take, List.length_drop, Bytes.length_ofNat]
  omega

theorem wordAt_append_right (before bytes : List UInt8) (offset : Nat) :
    wordAt (before ++ bytes) (before.length + offset) = wordAt bytes offset := by
  rw [wordAt, ← List.drop_drop, List.drop_left, wordAt]

theorem setWord_append_right (before bytes : List UInt8) (offset : Nat) (word : UInt16) :
    setWord (before ++ bytes) (before.length + offset) word =
      before ++ setWord bytes offset word := by
  rw [setWord, List.take_length_add_append, Nat.add_assoc, ← List.drop_drop, List.drop_left,
    List.append_assoc, setWord]

theorem turned_ne (byte : UInt8) (bit : Fin 8) : byte ^^^ (1 <<< UInt8.ofNat bit) ≠ byte := by
  have hmask : (1 : UInt8) <<< UInt8.ofNat bit ≠ 0 := by
    revert bit
    decide
  intro hsame
  apply hmask
  apply (UInt8.xor_right_inj byte).mp
  rw [UInt8.xor_zero]
  exact hsame

/-- A bit that is turned over changes one word, and not from zero to all bits set or back, because
the other byte of the word stays as it is. -/
theorem exists_setWord_flipBit (hinside : offset + 2 ≤ bytes.length) {position : Nat}
    (hposition : position = offset ∨ position = offset + 1) (bit : Fin 8) :
    ∃ word, flipBit bytes position bit = setWord bytes offset word ∧
      word ≠ wordAt bytes offset ∧ ¬ Opposite (wordAt bytes offset) word := by
  obtain ⟨before, low, high, after, rfl, rfl⟩ := exists_cut hinside
  have hturned (byte : UInt8) : (byte ^^^ (1 <<< UInt8.ofNat bit)).toNat ≠ byte.toNat :=
    fun hsame => turned_ne byte bit (UInt8.toNat_inj.mp hsame)
  have hnumber (low' high' : UInt8) (hother : low'.toNat ≠ low.toNat ∧ high' = high ∨
      low' = low ∧ high'.toNat ≠ high.toNat) :
      UInt16.ofNat (low'.toNat + 256 * high'.toNat) ≠
          wordAt (before ++ low :: high :: after) before.length ∧
        ¬ Opposite (wordAt (before ++ low :: high :: after) before.length)
          (UInt16.ofNat (low'.toNat + 256 * high'.toNat)) := by
    have hlow := low.toNat_lt
    have hhigh := high.toNat_lt
    have hlow' := low'.toNat_lt
    have hhigh' := high'.toNat_lt
    unfold Opposite
    simp only [wordAt_cut, ne_eq, ← UInt16.toNat_inj, toNat_word, UInt16.toNat_ofNat]
    rcases hother with ⟨hturned, rfl⟩ | ⟨rfl, hturned⟩ <;> omega
  rcases hposition with rfl | rfl
  · refine ⟨_, ?_, hnumber (low ^^^ (1 <<< UInt8.ofNat bit)) high (.inl ⟨hturned low, rfl⟩)⟩
    rw [setWord_pair]
    simp [flipBit]
  · refine ⟨_, ?_, hnumber low (high ^^^ (1 <<< UInt8.ofNat bit)) (.inr ⟨rfl, hturned high⟩)⟩
    rw [setWord_pair]
    simp [flipBit]

end Words

/-! ### The sum of the words -/

theorem wordSum_ofNat_append (word : UInt16) (rest : List UInt8) :
    wordSum (Bytes.ofNat 2 word.toNat ++ rest) = word.toNat + wordSum rest := by
  have hword := word.toNat_lt
  simp only [Bytes.ofNat_succ, Bytes.ofNat_zero, List.cons_append, List.nil_append, wordSum,
    UInt8.toNat_ofNat']
  omega

/-- Replacing a word leaves the other words in the sum. -/
theorem wordSum_setWord {bytes : List UInt8} {index : Nat} (hinside : 2 * index + 2 ≤ bytes.length)
    (word : UInt16) :
    wordSum (setWord bytes (2 * index) word) =
      word.toNat + (wordSum (bytes.take (2 * index)) + wordSum (bytes.drop (2 * index + 2))) := by
  have heven : (bytes.take (2 * index)).length % 2 = 0 := by
    rw [List.length_take]
    omega
  rw [setWord, wordSum_append heven, wordSum_ofNat_append]
  omega

theorem wordSum_eq_sum {bytes : List UInt8} {count : Nat} (hlength : bytes.length = 2 * count) :
    wordSum bytes = ∑ index ∈ Finset.range count, (wordAt bytes (2 * index)).toNat := by
  induction count generalizing bytes with
  | zero =>
      rw [List.length_eq_zero_iff.mp hlength]
      rfl
  | succ count ih =>
      have hfirst : 0 + 2 ≤ bytes.length := by omega
      obtain ⟨before, low, high, rest, rfl, hbefore⟩ := exists_cut hfirst
      rw [List.length_eq_zero_iff.mp hbefore, List.nil_append] at hlength ⊢
      have hrest : rest.length = 2 * count := by
        simp only [List.length_cons] at hlength
        omega
      have hfirst : wordAt (low :: high :: rest) (2 * 0) =
          UInt16.ofNat (low.toNat + 256 * high.toNat) := wordAt_cut [] rest low high
      have hlater (index : Nat) : wordAt (low :: high :: rest) (2 * (index + 1)) =
          wordAt rest (2 * index) := by
        rw [Nat.mul_add, Nat.add_comm]
        exact wordAt_append_right [low, high] rest (2 * index)
      rw [wordSum, Finset.sum_range_succ', ih hrest, hfirst, toNat_word, Nat.add_comm]
      simp only [hlater]

/-- What a byte string adds to the sum apart from one word is zero only if its other words are. -/
theorem rest_ne_zero_iff {bytes : List UInt8} {count index : Nat}
    (hlength : bytes.length = 2 * count) (hindex : index < count) :
    wordSum (bytes.take (2 * index)) + wordSum (bytes.drop (2 * index + 2)) ≠ 0 ↔
      ∃ other < count, other ≠ index ∧ wordAt bytes (2 * other) ≠ 0 := by
  have hinside : 2 * index + 2 ≤ bytes.length := by omega
  have hwhole := wordSum_setWord hinside (wordAt bytes (2 * index))
  rw [setWord_wordAt hinside, wordSum_eq_sum hlength,
    ← Finset.add_sum_erase _ _ (Finset.mem_range.mpr hindex)] at hwhole
  rw [← Nat.add_left_cancel hwhole, ne_eq, Finset.sum_eq_zero_iff]
  simp only [Finset.mem_erase, Finset.mem_range, not_forall, exists_prop]
  constructor
  · rintro ⟨other, ⟨hother, hless⟩, hword⟩
    exact ⟨other, hless, hother, fun hzero => hword (congrArg UInt16.toNat hzero)⟩
  · rintro ⟨other, hless, hother, hword⟩
    exact ⟨other, ⟨hother, hless⟩, fun hzero => hword (UInt16.toNat_inj.mp hzero)⟩

/-- Another word gives the same checksum exactly if it is the opposite of the old one and something
else was added. -/
theorem checksum_setWord_eq_iff {bytes : List UInt8} {count index : Nat} (hcount : count ≤ 6)
    (hlength : bytes.length = 2 * count) (hindex : index < count) {word : UInt16}
    (hother : word ≠ wordAt bytes (2 * index)) :
    checksum (setWord bytes (2 * index) word) = checksum bytes ↔
      Opposite (wordAt bytes (2 * index)) word ∧
        ∃ other < count, other ≠ index ∧ wordAt bytes (2 * other) ≠ 0 := by
  have hinside : 2 * index + 2 ≤ bytes.length := by omega
  have hfits (damaged : List UInt8) (hdamaged : damaged.length = bytes.length) :
      wordSum damaged < 2 ^ 64 := by
    have hbound := wordSum_le damaged
    omega
  have hwhole := wordSum_setWord hinside (wordAt bytes (2 * index))
  have hold := (wordAt bytes (2 * index)).toNat_lt
  have hnew := word.toNat_lt
  rw [setWord_wordAt hinside] at hwhole
  rw [checksum_eq_iff (hfits _ (length_setWord hinside word)) (hfits bytes rfl),
    ← rest_ne_zero_iff hlength hindex, wordSum_setWord hinside, hwhole]
  unfold Opposite
  simp only [ne_eq, ← UInt16.toNat_inj, UInt16.toNat_ofNat] at hother ⊢
  omega

/-! ### Words of a frame -/

theorem inbound_eq (message : Message) :
    inbound message =
      startByte :: (Bytes.ofNat checksumSize (checksum message.payload).toNat ++ message.payload) :=
  rfl

theorem wordAt_inbound_field (message : Message) :
    wordAt (inbound message) 1 = checksum message.payload := by
  have hlength : (Bytes.ofNat checksumSize (checksum message.payload).toNat).length = 2 :=
    Bytes.length_ofNat _ _
  have hsmall : (checksum message.payload).toNat < 256 ^ checksumSize :=
    (checksum message.payload).toNat_lt
  rw [inbound_eq, wordAt, List.drop_succ_cons, List.drop_zero, List.take_left' hlength,
    Bytes.value_ofNat, Nat.mod_eq_of_lt hsmall, UInt16.ofNat_toNat]

theorem wordAt_inbound_payload (message : Message) (offset : Nat) :
    wordAt (inbound message) (3 + offset) = wordAt message.payload offset :=
  wordAt_append_right
    (startByte :: Bytes.ofNat checksumSize (checksum message.payload).toNat) message.payload offset

theorem setWord_inbound_field (message : Message) (word : UInt16) :
    setWord (inbound message) 1 word =
      startByte :: (Bytes.ofNat checksumSize word.toNat ++ message.payload) := by
  have hlength : (Bytes.ofNat checksumSize (checksum message.payload).toNat).length = 1 + 1 :=
    Bytes.length_ofNat _ _
  rw [inbound_eq, setWord, List.take_succ_cons, List.take_zero, List.drop_succ_cons,
    List.drop_left' hlength]
  rfl

theorem setWord_inbound_payload (message : Message) (offset : Nat) (word : UInt16) :
    setWord (inbound message) (3 + offset) word =
      startByte :: (Bytes.ofNat checksumSize (checksum message.payload).toNat ++
        setWord message.payload offset word) :=
  setWord_append_right
    (startByte :: Bytes.ofNat checksumSize (checksum message.payload).toNat) message.payload offset
    word

/-- The field of a frame matches another payload exactly if the payloads have the same checksum. -/
theorem matches_checksum_iff (payload other : List UInt8) :
    Matches (Bytes.ofNat checksumSize (checksum payload).toNat) other ↔
      checksum other = checksum payload := by
  have hsmall : (checksum payload).toNat < 256 ^ checksumSize := (checksum payload).toNat_lt
  rw [Matches, Bytes.value_ofNat, Nat.mod_eq_of_lt hsmall, UInt16.ofNat_toNat]

end Frame

namespace Receiver

open GroundStation.Frame

/-- What a fresh receiver says first about the bytes that it gets. -/
def firstEvent (config : Config) (bytes : List UInt8) : Option FrameEvent :=
  (({ config } : Receiver).push bytes).2.next.1

/-- A fresh receiver finds that the bytes are a valid frame. -/
def Accepts (config : Config) (bytes : List UInt8) : Prop :=
  firstEvent config bytes = some (.valid (windowPayload bytes))

/-- A fresh receiver finds that the checksum field of the bytes does not match. -/
def Rejects (config : Config) (bytes : List UInt8) : Prop :=
  ∃ expected found, expected ≠ found ∧
    firstEvent config bytes = some (.invalid (windowPayload bytes) expected found)

/-- A receiver that holds a full window at the front of its queue judges it. -/
theorem next_of_window {receiver : Receiver} {field payload rest : List UInt8}
    (hfield : field.length = checksumSize) (hpayload : payload.length = inboundPayloadSize)
    (hbytes : receiver.queue.toList = startByte :: (field ++ payload ++ rest)) :
    receiver.next.1 = some (judge field payload) := by
  have hscan := scan_window hfield hpayload rest
  rw [← hbytes] at hscan
  have hlook := receiver.next_look
  cases hevent : receiver.next.1 with
  | none =>
      rw [hevent] at hlook
      rw [hlook.scan_eq_nil] at hscan
      cases hscan
  | some event =>
      rw [hevent] at hlook
      have hscanned := hlook.scans.scan_eq
      rw [hscan] at hscanned
      exact congrArg some (List.head_eq_of_cons_eq hscanned).symm

section Window

variable (config : Config) {field payload : List UInt8} (hfield : field.length = checksumSize)
  (hpayload : payload.length = inboundPayloadSize)

include hfield hpayload

/-- A frame alone is judged by its checksum. -/
theorem firstEvent_window :
    firstEvent config (startByte :: (field ++ payload)) = some (judge field payload) := by
  have hroom : (startByte :: (field ++ payload)).length ≤ ({ config } : Receiver).queue.free := by
    rw [length_window hfield hpayload]
    change inboundSize ≤ ByteQueue.empty.free
    decide
  have hbytes : (({ config } : Receiver).push (startByte :: (field ++ payload))).2.queue.toList =
      startByte :: (field ++ payload ++ []) := by
    rw [toList_push, List.take_of_length_le hroom, List.append_nil]
    rfl
  exact next_of_window hfield hpayload hbytes

theorem accepts_of_matches (hmatch : Matches field payload) :
    Accepts config (startByte :: (field ++ payload)) := by
  rw [Accepts, firstEvent_window config hfield hpayload, windowPayload_cons hfield,
    judge_of_matches hmatch]

theorem rejects_of_not_matches (hmatch : ¬ Matches field payload) :
    Rejects config (startByte :: (field ++ payload)) := by
  refine ⟨checksum payload, UInt16.ofNat (Bytes.value field), hmatch, ?_⟩
  rw [firstEvent_window config hfield hpayload, windowPayload_cons hfield,
    judge_of_not_matches hmatch]

end Window

section Damage

variable (config : Config) (message : Message)

/-- A frame with another checksum field is rejected. -/
theorem rejects_field {word : UInt16} (hother : word ≠ wordAt (inbound message) 1) :
    Rejects config (setWord (inbound message) 1 word) := by
  rw [setWord_inbound_field]
  apply rejects_of_not_matches config (Bytes.length_ofNat _ _) message.length_payload
  have hsmall : word.toNat < 256 ^ checksumSize := word.toNat_lt
  rw [Matches, Bytes.value_ofNat, Nat.mod_eq_of_lt hsmall, UInt16.ofNat_toNat,
    ← wordAt_inbound_field]
  exact hother.symm

/-- A payload word is replaced unnoticed exactly by its opposite, if another payload word is not
zero. -/
theorem accepts_or_rejects_payload {index : Nat} (hindex : index < 6) {word : UInt16}
    (hother : word ≠ wordAt (inbound message) (3 + 2 * index)) :
    let damaged := setWord (inbound message) (3 + 2 * index) word
    let unnoticed := Opposite (wordAt (inbound message) (3 + 2 * index)) word ∧
      ∃ other < 6, other ≠ index ∧ wordAt (inbound message) (3 + 2 * other) ≠ 0
    (unnoticed → Accepts config damaged) ∧ (¬ unnoticed → Rejects config damaged) := by
  intro damaged unnoticed
  have hlength : message.payload.length = 2 * 6 := message.length_payload
  have hpayload : (setWord message.payload (2 * index) word).length = inboundPayloadSize :=
    (length_setWord (by omega) word).trans hlength
  rw [wordAt_inbound_payload] at hother
  have hmatches := (matches_checksum_iff message.payload _).trans
    (checksum_setWord_eq_iff (Nat.le_refl 6) hlength hindex hother)
  simp only [damaged, unnoticed, setWord_inbound_payload, wordAt_inbound_payload]
  rw [← hmatches]
  exact ⟨accepts_of_matches config (Bytes.length_ofNat _ _) hpayload,
    rejects_of_not_matches config (Bytes.length_ofNat _ _) hpayload⟩

/-- A frame with a turned bit behind its start byte is rejected. The bit belongs to the checksum
field or to one of the six words behind it. -/
theorem rejects_flipBit {position : Nat} (hpositive : 1 ≤ position)
    (hinside : position < inboundSize) (bit : Fin 8) :
    Rejects config (flipBit (inbound message) position bit) := by
  have hlength := length_inbound message
  have hsize : inboundSize = 15 := rfl
  obtain ⟨offset, hoffset, hposition, hplace⟩ : ∃ offset, offset + 2 ≤ (inbound message).length ∧
      (position = offset ∨ position = offset + 1) ∧
      (offset = 1 ∨ ∃ index < 6, offset = 3 + 2 * index) := by
    refine ⟨position - (position - 1) % 2, by omega, by omega, ?_⟩
    by_cases hfirst : position ≤ 2
    · left
      omega
    · exact .inr ⟨(position - 3) / 2, by omega, by omega⟩
  obtain ⟨word, hflipped, hother, hopposite⟩ := exists_setWord_flipBit hoffset hposition bit
  rw [hflipped]
  rcases hplace with rfl | ⟨index, hindex, rfl⟩
  · exact rejects_field config message hother
  · apply (accepts_or_rejects_payload config message hindex hother).2
    exact fun hunnoticed => hopposite hunnoticed.1

end Damage

/-- Let one word of a message's frame be replaced by another word, and the frame be given to a fresh
receiver. If it is the checksum field, the receiver finds the frame invalid. If it is a payload
word, the receiver finds the frame valid exactly if the word changes between zero and all bits set
and another payload word is not zero, and invalid otherwise. A single bit that is turned over behind
the start byte always makes the frame invalid. -/
theorem damaged_frames_show (config : Config) (message : Message) :
    let frame := inbound message
    (∀ word, word ≠ wordAt frame 1 → Rejects config (setWord frame 1 word)) ∧
      (∀ index < 6, ∀ word, word ≠ wordAt frame (3 + 2 * index) →
        let damaged := setWord frame (3 + 2 * index) word
        let unnoticed := Opposite (wordAt frame (3 + 2 * index)) word ∧
          ∃ other < 6, other ≠ index ∧ wordAt frame (3 + 2 * other) ≠ 0
        (unnoticed → Accepts config damaged) ∧ (¬ unnoticed → Rejects config damaged)) ∧
      ∀ position, 1 ≤ position → position < inboundSize → ∀ bit,
        Rejects config (flipBit frame position bit) := by
  refine ⟨fun _ => rejects_field config message, ?_, ?_⟩
  · intro index hindex word hother
    exact accepts_or_rejects_payload config message hindex hother
  · intro position hpositive hinside bit
    exact rejects_flipBit config message hpositive hinside bit

/-- The last word of the payload is zero in both messages. Setting all its bits goes unnoticed in
the first message and shows in the second, where all words are zero. -/
theorem damaged_frames_show_blind_spot :
    let frame := inbound ⟨0x305, 42⟩
    let blank := inbound ⟨0, 0⟩
    wordAt frame 13 = 0 ∧ Accepts {} (setWord frame 13 0xFFFF) ∧
      Rejects {} (setWord frame 13 0xFFFE) ∧ Rejects {} (setWord frame 1 0) ∧
      Rejects {} (flipBit frame 14 7) ∧ Rejects {} (setWord blank 13 0xFFFF) := by
  intro frame blank
  obtain ⟨hfield, hpayload, hbits⟩ := damaged_frames_show {} ⟨0x305, 42⟩
  obtain ⟨_, hblank, _⟩ := damaged_frames_show {} ⟨0, 0⟩
  refine ⟨by decide +kernel, ?_, ?_, ?_, ?_, ?_⟩
  · exact (hpayload 5 (by decide) 0xFFFF (by decide +kernel)).1
      ⟨by decide +kernel, 0, by decide, by decide, by decide +kernel⟩
  · exact (hpayload 5 (by decide) 0xFFFE (by decide +kernel)).2 (by decide +kernel)
  · exact hfield 0 (by decide +kernel)
  · exact hbits 14 (by decide) (by decide) 7
  · exact (hblank 5 (by decide) 0xFFFF (by decide +kernel)).2 (by decide +kernel)

end Receiver

end GroundStation
