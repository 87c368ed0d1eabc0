import GssApi.Krb5.Context
import Mathlib.Tactic.IntervalCases

/-! The flags of ticket contexts.

An initiator's context carries the flags granted for its request: the supported flags it asked
for, and protection readiness. An acceptor's context carries the flags granted for the flags its
authenticator names, with mutual authentication set when the request asks for a reply and
cleared otherwise. Every such word has protection readiness and no bit beyond the supported
flags and protection readiness; granting keeps mutual authentication exactly when it was asked
for, so both ends agree. -/
namespace GssApi

/-- Conjunction distributes over disjunction on words. -/
theorem UInt32.and_or_distrib_right (a b c : UInt32) : (a ||| b) &&& c = a &&& c ||| b &&& c :=
  UInt32.toBitVec_inj.1 BitVec.and_or_distrib_right

namespace Krb5

/-- Flags a ticket context may carry: protection readiness, and no bit beyond the supported
flags and protection readiness. -/
structure FlagsOk (flags : UInt32) : Prop where
  protReady : ContextFlags.has flags ContextFlags.protReady = true
  known : flags &&& ~~~(supportedFlags ||| ContextFlags.protReady) = 0

theorem has_protReady_of_and {flags : UInt32}
    (kept : flags &&& ContextFlags.protReady = ContextFlags.protReady) :
    ContextFlags.has flags ContextFlags.protReady = true := by
  simp only [ContextFlags.has, kept]
  decide

/-- Granted flags are flags a ticket context may carry: the supported flags asked for lie among
the known ones, and protection readiness is added. -/
theorem flagsOk_granted (requested : UInt32) : FlagsOk (granted requested) where
  protReady := by
    have apart : supportedFlags &&& ContextFlags.protReady = 0 := by decide
    apply has_protReady_of_and
    rw [granted, UInt32.and_or_distrib_right, UInt32.and_assoc, apart, UInt32.and_zero,
      UInt32.and_self, UInt32.zero_or]
  known := by
    have supported : supportedFlags &&& ~~~(supportedFlags ||| ContextFlags.protReady) = 0 := by
      decide
    have ready : ContextFlags.protReady &&& ~~~(supportedFlags ||| ContextFlags.protReady) = 0 := by
      decide
    rw [granted, UInt32.and_or_distrib_right, UInt32.and_assoc, supported, ready, UInt32.and_zero,
      UInt32.or_zero]

/-- Setting mutual authentication keeps flags a ticket context may carry. -/
theorem FlagsOk.or_mutualAuth {flags : UInt32} (ok : FlagsOk flags) :
    FlagsOk (flags ||| ContextFlags.mutualAuth) where
  protReady := by
    have apart : ContextFlags.mutualAuth &&& ContextFlags.protReady = 0 := by decide
    have same : (flags ||| ContextFlags.mutualAuth) &&& ContextFlags.protReady =
        flags &&& ContextFlags.protReady := by
      rw [UInt32.and_or_distrib_right, apart, UInt32.or_zero]
    simpa only [ContextFlags.has, same] using ok.protReady
  known := by
    have extra : ContextFlags.mutualAuth &&& ~~~(supportedFlags ||| ContextFlags.protReady) = 0 := by
      decide
    rw [UInt32.and_or_distrib_right, ok.known, extra, UInt32.or_zero]

/-- Clearing mutual authentication keeps flags a ticket context may carry. -/
theorem FlagsOk.and_not_mutualAuth {flags : UInt32} (ok : FlagsOk flags) :
    FlagsOk (flags &&& ~~~ContextFlags.mutualAuth) where
  protReady := by
    have kept : ~~~ContextFlags.mutualAuth &&& ContextFlags.protReady = ContextFlags.protReady := by
      decide
    have same : flags &&& ~~~ContextFlags.mutualAuth &&& ContextFlags.protReady =
        flags &&& ContextFlags.protReady := by
      rw [UInt32.and_assoc, kept]
    simpa only [ContextFlags.has, same] using ok.protReady
  known := by
    rw [UInt32.and_assoc, UInt32.and_comm (~~~ContextFlags.mutualAuth), ← UInt32.and_assoc,
      ok.known, UInt32.zero_and]

/-- Granting keeps mutual authentication exactly when it was asked for. -/
theorem has_granted_mutualAuth (requested : UInt32) :
    ContextFlags.has (granted requested) ContextFlags.mutualAuth =
      ContextFlags.has requested ContextFlags.mutualAuth := by
  have supported : supportedFlags &&& ContextFlags.mutualAuth = ContextFlags.mutualAuth := by decide
  have apart : ContextFlags.protReady &&& ContextFlags.mutualAuth = 0 := by decide
  simp only [ContextFlags.has, granted, UInt32.and_or_distrib_right, UInt32.and_assoc, supported,
    apart, UInt32.or_zero]

theorem mutualBit_of_has {flags : UInt32} (asked : ContextFlags.has flags ContextFlags.mutualAuth = true) :
    flags.toBitVec[1] = true := by
  simp only [ContextFlags.has, ContextFlags.mutualAuth, bne_iff_ne, ne_eq] at asked
  by_contra off
  apply asked
  apply UInt32.toBitVec_inj.1
  ext i hi
  interval_cases i <;> simp_all

theorem mutualBit_of_not_has {flags : UInt32}
    (notAsked : ContextFlags.has flags ContextFlags.mutualAuth = false) : flags.toBitVec[1] = false := by
  simp only [ContextFlags.has, ContextFlags.mutualAuth, bne_eq_false_iff_eq] at notAsked
  have bit := congrArg (fun x : UInt32 => x.toBitVec[1]) notAsked
  simpa using bit

/-- Granted flags already carry mutual authentication when it was asked for. -/
theorem granted_or_mutualAuth {flags : UInt32}
    (asked : ContextFlags.has flags ContextFlags.mutualAuth = true) :
    granted flags ||| ContextFlags.mutualAuth = granted flags := by
  have bit := mutualBit_of_has asked
  simp only [granted, supportedFlags, ContextFlags.mutualAuth, ContextFlags.replayDetection,
    ContextFlags.sequencing, ContextFlags.integrity, ContextFlags.protReady]
  apply UInt32.toBitVec_inj.1
  ext i hi
  interval_cases i <;> simp_all

/-- Granted flags lack mutual authentication when it was not asked for. -/
theorem granted_and_not_mutualAuth {flags : UInt32}
    (notAsked : ContextFlags.has flags ContextFlags.mutualAuth = false) :
    granted flags &&& ~~~ContextFlags.mutualAuth = granted flags := by
  have bit := mutualBit_of_not_has notAsked
  simp only [granted, supportedFlags, ContextFlags.mutualAuth, ContextFlags.replayDetection,
    ContextFlags.sequencing, ContextFlags.integrity, ContextFlags.protReady]
  apply UInt32.toBitVec_inj.1
  ext i hi
  interval_cases i <;> simp_all

end Krb5

end GssApi
