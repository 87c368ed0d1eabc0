import GssApi.Error
import Mathlib.Algebra.Group.Nat.Defs

/-! The legacy 32-bit status word.

`Status.toLegacy` packs the calling error code into bits 24 to 31, the routine code into bits
16 to 23 and the supplementary bits into bits 0 to 15; `Status.ofLegacy` reads the three
fields back and refuses a calling field above 3 or a routine field above 18. The two routine
outcomes that are not errors share routine code 0 and the reader tells them apart by the
continuation bit, so a word round-trips exactly when the status agrees with that bit.

The fields are handled in natural numbers: `toNat_legacyWord` says where each field sits,
and every statement about shifts and masks below is read off it. Main statement:
`legacy_status_words_round_trip`. -/
namespace GssApi

namespace Major

theorem routineCode_le (m : Major) : m.routineCode ≤ 18 := by
  cases m <;> decide

theorem routineCode_eq_zero_iff (m : Major) :
    m.routineCode = 0 ↔ m = complete ∨ m = continueNeeded := by
  cases m <;> decide

/-- Every outcome but continuation is found again from its routine code. -/
theorem ofRoutineCode_routineCode {m : Major} (h : m ≠ continueNeeded) :
    ofRoutineCode m.routineCode = some m := by
  revert h
  cases m <;> decide

theorem routineCode_of_ofRoutineCode {c : UInt32} {m : Major} (h : ofRoutineCode c = some m) :
    m.routineCode = c := by
  simpa using List.find?_some h

/-- Code 0 reads as completion, never as continuation. -/
theorem ne_continueNeeded_of_ofRoutineCode {c : UInt32} {m : Major}
    (h : ofRoutineCode c = some m) : m ≠ continueNeeded := by
  rintro rfl
  have zero : c = 0 := (routineCode_of_ofRoutineCode h).symm
  subst zero
  exact absurd h (by decide)

theorem eq_of_routineCode_eq {m m' : Major} (same : m.routineCode = m'.routineCode)
    (h : m ≠ continueNeeded) (h' : m' ≠ continueNeeded) : m = m' := by
  have found := ofRoutineCode_routineCode h
  rw [same, ofRoutineCode_routineCode h'] at found
  exact (Option.some.inj found).symm

/-- The routine codes that name an outcome are exactly 0 to 18. -/
theorem ofRoutineCode_isSome_iff (c : UInt32) : (ofRoutineCode c).isSome ↔ c ≤ 18 := by
  constructor
  · intro found
    obtain ⟨m, hm⟩ := Option.isSome_iff_exists.mp found
    exact routineCode_of_ofRoutineCode hm ▸ routineCode_le m
  · intro small
    have table : ∀ k < 19, (ofRoutineCode (UInt32.ofNat k)).isSome := by decide
    have bound : c.toNat < 19 := by
      have := UInt32.le_iff_toNat_le.mp small
      simp at this
      omega
    simpa using table c.toNat bound

end Major

namespace CallError

theorem ofCode?_code (c : CallError) : ofCode? c.code = some c := by
  cases c <;> rfl

theorem code_of_ofCode? {n : UInt32} {c : CallError} (h : ofCode? n = some c) : c.code = n := by
  unfold ofCode? at h
  split at h <;> cases h <;> rfl

theorem code_pos (c : CallError) : 0 < c.code ∧ c.code ≤ 3 := by
  cases c <;> decide

/-- The calling codes that name a calling error are exactly 1 to 3. -/
theorem ofCode?_isSome_iff (n : UInt32) : (ofCode? n).isSome ↔ 0 < n ∧ n ≤ 3 := by
  unfold ofCode?
  split
  · decide
  · decide
  · decide
  · rename_i one two three
    simp only [Option.isSome_none, Bool.false_eq_true, false_iff, UInt32.le_iff_toNat_le,
      UInt32.lt_iff_toNat_lt]
    have := mt UInt32.toNat_inj.mp one
    have := mt UInt32.toNat_inj.mp two
    have := mt UInt32.toNat_inj.mp three
    simp only [UInt32.toNat_ofNat] at *
    omega

end CallError

/-- The legacy word with the given calling field, routine field and supplementary bits. -/
def legacyWord (calling routine : UInt32) (bits : UInt16) : UInt32 :=
  (calling <<< 24) ||| (routine <<< 16) ||| bits.toUInt32

/-- Fields that fit in a byte sit side by side in the word without overlapping. -/
theorem toNat_legacyWord {calling routine : UInt32} (bits : UInt16)
    (hc : calling.toNat < 256) (hr : routine.toNat < 256) :
    (legacyWord calling routine bits).toNat =
      calling.toNat * 2 ^ 24 + routine.toNat * 2 ^ 16 + bits.toNat := by
  have low := bits.toNat_lt
  have callingBits : (calling <<< 24).toNat = calling.toNat <<< 24 := by
    rw [UInt32.toNat_shiftLeft, show (24 : UInt32).toNat % 32 = 24 from rfl,
      Nat.mod_eq_of_lt (by rw [Nat.shiftLeft_eq]; omega)]
  have routineBits : (routine <<< 16).toNat = routine.toNat <<< 16 := by
    rw [UInt32.toNat_shiftLeft, show (16 : UInt32).toNat % 32 = 16 from rfl,
      Nat.mod_eq_of_lt (by rw [Nat.shiftLeft_eq]; omega)]
  have upper : routine.toNat <<< 16 + bits.toNat < 2 ^ 24 := by
    rw [Nat.shiftLeft_eq]
    omega
  simp only [legacyWord, UInt32.toNat_or, UInt16.toNat_toUInt32]
  rw [callingBits, routineBits, Nat.or_assoc, ← Nat.shiftLeft_add_eq_or_of_lt low,
    ← Nat.shiftLeft_add_eq_or_of_lt upper, Nat.shiftLeft_eq, Nat.shiftLeft_eq]
  omega

/-! The three fields of a word, in natural numbers. -/

theorem toNat_callingField (w : UInt32) : (w >>> 24).toNat = w.toNat / 2 ^ 24 := by
  rw [UInt32.toNat_shiftRight, show (24 : UInt32).toNat % 32 = 24 from rfl,
    Nat.shiftRight_eq_div_pow]

theorem toNat_routineField (w : UInt32) :
    ((w >>> 16) &&& 0xFF).toNat = w.toNat / 2 ^ 16 % 256 := by
  rw [UInt32.toNat_and, UInt32.toNat_shiftRight, show (16 : UInt32).toNat % 32 = 16 from rfl,
    Nat.shiftRight_eq_div_pow]
  exact Nat.and_two_pow_sub_one_eq_mod _ 8

theorem toNat_bitsField (w : UInt32) : (w &&& 0xFFFF).toUInt16.toNat = w.toNat % 2 ^ 16 := by
  rw [UInt32.toNat_toUInt16, UInt32.toNat_and,
    show (0xFFFF : UInt32).toNat = 2 ^ 16 - 1 from rfl, Nat.and_two_pow_sub_one_eq_mod,
    Nat.mod_mod]

/-- A legacy word gives back the fields it was built from. -/
theorem legacyWord_fields {calling routine : UInt32} (bits : UInt16)
    (hc : calling.toNat < 256) (hr : routine.toNat < 256) :
    legacyWord calling routine bits >>> 24 = calling ∧
      (legacyWord calling routine bits >>> 16) &&& 0xFF = routine ∧
      (legacyWord calling routine bits &&& 0xFFFF).toUInt16 = bits := by
  have word := toNat_legacyWord bits hc hr
  have low := bits.toNat_lt
  refine ⟨UInt32.toNat_inj.mp ?_, UInt32.toNat_inj.mp ?_, UInt16.toNat_inj.mp ?_⟩
  · rw [toNat_callingField, word]
    omega
  · rw [toNat_routineField, word]
    omega
  · rw [toNat_bitsField, word]
    omega

/-- Every word is the legacy word of its own three fields. -/
theorem legacyWord_of_fields (w : UInt32) :
    legacyWord (w >>> 24) ((w >>> 16) &&& 0xFF) (w &&& 0xFFFF).toUInt16 = w := by
  have whole := w.toNat_lt
  have calling := toNat_callingField w
  have routine := toNat_routineField w
  apply UInt32.toNat_inj.mp
  rw [toNat_legacyWord _ (by omega) (by omega), calling, routine, toNat_bitsField]
  omega

namespace Status

/-- What a successful read of a word gives: the calling error, routine code and supplementary
bits of the status are the word's fields, the minor code is the one given, and the outcome is
continuation exactly when the routine field is 0 and the continuation bit is set. -/
theorem ofLegacy_eq_some {w m : UInt32} {s : Status} (h : ofLegacy w m = some s) :
    (s.callError.map CallError.code).getD 0 = w >>> 24 ∧
      s.major.routineCode = (w >>> 16) &&& 0xFF ∧
      s.supplementary = (w &&& 0xFFFF).toUInt16 ∧ s.minor = m ∧
      (s.major = .continueNeeded ↔ (w >>> 16) &&& 0xFF = 0 ∧ s.isContinueNeeded = true) := by
  simp only [ofLegacy] at h
  -- the calling field is read first; both of its branches go on to the same routine read
  obtain ⟨callError, calling, routine, found, built⟩ :
      ∃ callError : Option CallError, (callError.map CallError.code).getD 0 = w >>> 24 ∧
        ∃ routine, Major.ofRoutineCode ((w >>> 16) &&& 0xFF) = some routine ∧
          some (⟨if routine = Major.complete ∧
              Supplementary.has (w &&& 0xFFFF).toUInt16 Supplementary.continueNeeded = true
              then Major.continueNeeded else routine,
            m, (w &&& 0xFFFF).toUInt16, callError⟩ : Status) = some s := by
    split at h <;> simp only [bind, Option.bind_eq_some_iff, Option.map_eq_some_iff] at h
    · rename_i zero
      obtain ⟨callError, none, rest⟩ := h
      cases none
      exact ⟨none, zero.symm, rest⟩
    · obtain ⟨callError, ⟨c, named, rfl⟩, rest⟩ := h
      exact ⟨some c, CallError.code_of_ofCode? named, rest⟩
  cases built
  have code := Major.routineCode_of_ofRoutineCode found
  have notContinue := Major.ne_continueNeeded_of_ofRoutineCode found
  refine ⟨calling, ?_, rfl, rfl, ?_⟩
  · split
    · rename_i complete
      rw [← code, complete.1]
      rfl
    · exact code
  · simp only [isContinueNeeded]
    split
    · rename_i complete
      exact iff_of_true rfl ⟨code ▸ complete.1 ▸ rfl, complete.2⟩
    · rename_i notComplete
      refine iff_of_false notContinue fun ⟨zero, bit⟩ => notComplete ⟨?_, bit⟩
      rw [← code, Major.routineCode_eq_zero_iff] at zero
      exact zero.resolve_right notContinue

/-- The continuation bit of the supplementary field is bit 0 of the word. -/
theorem has_continueNeeded_bitsField (w : UInt32) :
    Supplementary.has (w &&& 0xFFFF).toUInt16 Supplementary.continueNeeded = true ↔ w &&& 1 = 1 := by
  have low := toNat_bitsField w
  simp only [Supplementary.has, Supplementary.continueNeeded, bne_iff_ne, ne_eq,
    ← UInt16.toNat_inj, ← UInt32.toNat_inj, UInt16.toNat_and, UInt32.toNat_and, low,
    UInt16.reduceToNat, UInt32.reduceToNat, Nat.and_one_is_mod]
  omega

theorem toLegacy_eq (s : Status) :
    s.toLegacy = legacyWord ((s.callError.map CallError.code).getD 0) s.major.routineCode
      s.supplementary := rfl

theorem callingCode_le (callError : Option CallError) :
    (callError.map CallError.code).getD 0 ≤ 3 := by
  cases callError with
  | none => decide
  | some c => exact c.code_pos.2

/-- The calling field names the calling error, if there is one. -/
theorem eq_of_callingCode_eq {a b : Option CallError}
    (same : (a.map CallError.code).getD 0 = (b.map CallError.code).getD 0) : a = b := by
  cases a with
  | none =>
    cases b with
    | none => rfl
    | some c => exact absurd same.symm (UInt32.pos_iff_ne_zero.mp c.code_pos.1)
  | some c =>
    cases b with
    | none => exact absurd same (UInt32.pos_iff_ne_zero.mp c.code_pos.1)
    | some c' =>
      have read := CallError.ofCode?_code c
      rw [show c.code = c'.code from same, CallError.ofCode?_code] at read
      rw [Option.some.inj read]

/-- The word of a status holds its calling code, its routine code and its supplementary
bits. -/
theorem toLegacy_fields (s : Status) :
    s.toLegacy >>> 24 = (s.callError.map CallError.code).getD 0 ∧
      (s.toLegacy >>> 16) &&& 0xFF = s.major.routineCode ∧
      (s.toLegacy &&& 0xFFFF).toUInt16 = s.supplementary := by
  have calling := UInt32.le_iff_toNat_le.mp (callingCode_le s.callError)
  have routine := UInt32.le_iff_toNat_le.mp s.major.routineCode_le
  simp only [UInt32.reduceToNat] at calling routine
  exact legacyWord_fields _ (by omega) (by omega)

/-- A word is read exactly when its calling field is at most 3 and its routine field at most
18. -/
theorem ofLegacy_isSome_iff (w m : UInt32) :
    (ofLegacy w m).isSome ↔ w >>> 24 ≤ 3 ∧ (w >>> 16) &&& 0xFF ≤ 18 := by
  constructor
  · intro read
    obtain ⟨s, hs⟩ := Option.isSome_iff_exists.mp read
    obtain ⟨calling, routine, -⟩ := ofLegacy_eq_some hs
    refine ⟨calling ▸ ?_, routine ▸ s.major.routineCode_le⟩
    cases s.callError with
    | none => decide
    | some c => exact c.code_pos.2
  · rintro ⟨calling, routine⟩
    obtain ⟨major, found⟩ :=
      Option.isSome_iff_exists.mp ((Major.ofRoutineCode_isSome_iff _).mpr routine)
    simp only [ofLegacy]
    split
    · simp [found]
    · rename_i nonzero
      obtain ⟨c, named⟩ := Option.isSome_iff_exists.mp
        ((CallError.ofCode?_isSome_iff _).mpr ⟨UInt32.pos_iff_ne_zero.mpr nonzero, calling⟩)
      simp [named, found]

/-- A status reads back from its own word exactly when its outcome agrees with its
continuation bit: neither continuation without the bit nor completion with it. -/
theorem ofLegacy_toLegacy_iff (s : Status) :
    ofLegacy s.toLegacy s.minor = some s ↔
      ¬(s.major = .continueNeeded ∧ s.isContinueNeeded = false) ∧
        ¬(s.major = .complete ∧ s.isContinueNeeded = true) := by
  obtain ⟨calling, routine, bits⟩ := toLegacy_fields s
  constructor
  · intro read
    obtain ⟨-, -, -, -, continued⟩ := ofLegacy_eq_some read
    rw [routine] at continued
    refine ⟨fun ⟨cont, clear⟩ => ?_, fun ⟨complete, set⟩ => ?_⟩
    · rw [(continued.mp cont).2] at clear
      cases clear
    · have cont := continued.mpr ⟨by rw [complete]; rfl, set⟩
      rw [complete] at cont
      cases cont
  · rintro ⟨agreesSet, agreesClear⟩
    obtain ⟨s', read⟩ := Option.isSome_iff_exists.mp ((ofLegacy_isSome_iff _ _).mpr
      ⟨calling ▸ callingCode_le s.callError, routine ▸ s.major.routineCode_le⟩)
    obtain ⟨calling', routine', bits', minor', continued'⟩ := ofLegacy_eq_some read
    rw [calling] at calling'
    rw [routine] at routine' continued'
    rw [bits] at bits'
    simp only [isContinueNeeded, bits'] at continued'
    have sameMajor : s'.major = s.major := by
      by_cases cont : s.major = .continueNeeded
      · have set : s.isContinueNeeded = true := by
          cases bit : s.isContinueNeeded
          · exact absurd ⟨cont, bit⟩ agreesSet
          · rfl
        exact cont ▸ continued'.mpr ⟨by rw [cont]; rfl, set⟩
      · have notCont' : s'.major ≠ .continueNeeded := fun cont' => by
          obtain ⟨zero, set⟩ := continued'.mp cont'
          rcases (Major.routineCode_eq_zero_iff _).mp zero with complete | continuation
          · exact agreesClear ⟨complete, set⟩
          · exact cont continuation
        exact Major.eq_of_routineCode_eq routine' notCont' cont
    have sameCall := eq_of_callingCode_eq calling'
    rw [read]
    cases s
    cases s'
    simp_all

end Status

namespace GssError

/-- An error's status carries the error's outcome and minor code, and no supplementary bit. -/
theorem status_fields (e : GssError) :
    e.status.major = e.major ∧ e.status.minor = e.minor ∧ e.status.supplementary = 0 := by
  cases e <;> exact ⟨rfl, rfl, rfl⟩

/-- The word of an error's status reads back as that status, unless the error reports
continuation. -/
theorem ofLegacy_status (e : GssError) (h : e.major ≠ .continueNeeded) :
    Status.ofLegacy e.status.toLegacy e.minor = some e.status := by
  obtain ⟨major, minor, bits⟩ := e.status_fields
  rw [← minor]
  refine (Status.ofLegacy_toLegacy_iff _).mpr ⟨fun ⟨cont, _⟩ => h (major ▸ cont), ?_⟩
  rintro ⟨-, set⟩
  rw [Status.isContinueNeeded, bits] at set
  exact absurd set (by decide)

end GssError

/-- The legacy status word. A word is read exactly when its calling field is 0 to 3 and its
routine field 0 to 18; the status read gives back the same word and the minor code it was
read with, and it is continuation exactly when the routine field is 0 and bit 0 is set. A
status reads back from its own word exactly when its outcome agrees with its continuation
bit, so the status of every error that does not report continuation reads back. -/
theorem legacy_status_words_round_trip :
    (∀ w m : UInt32, (Status.ofLegacy w m).isSome ↔ w >>> 24 ≤ 3 ∧ (w >>> 16) &&& 0xFF ≤ 18) ∧
    (∀ (w m : UInt32) (s : Status), Status.ofLegacy w m = some s →
      s.toLegacy = w ∧ s.minor = m ∧
        (s.major = .continueNeeded ↔ (w >>> 16) &&& 0xFF = 0 ∧ w &&& 1 = 1)) ∧
    (∀ s : Status, Status.ofLegacy s.toLegacy s.minor = some s ↔
      ¬(s.major = .continueNeeded ∧ s.isContinueNeeded = false) ∧
        ¬(s.major = .complete ∧ s.isContinueNeeded = true)) ∧
    (∀ e : GssError, e.major ≠ .continueNeeded →
      Status.ofLegacy e.status.toLegacy e.minor = some e.status) := by
  refine ⟨Status.ofLegacy_isSome_iff, fun w m s read => ?_, Status.ofLegacy_toLegacy_iff,
    GssError.ofLegacy_status⟩
  obtain ⟨calling, routine, bits, minor, continued⟩ := Status.ofLegacy_eq_some read
  refine ⟨?_, minor, ?_⟩
  · rw [Status.toLegacy_eq, calling, routine, bits, legacyWord_of_fields]
  · rw [continued, Status.isContinueNeeded, bits, Status.has_continueNeeded_bitsField]

end GssApi
