import GssApi.Proofs.Acceptor

/-! Expiry and lifetime arithmetic on 64-bit clocks.

Times are 64-bit second counts. The initiator's context ends at the earlier of the ticket's
expiry and the clock plus the lifetime asked for, where that sum stops at the largest 64-bit
time; the acceptor's ends with the ticket. A lifetime reported at a clock value is the time left,
cut to zero after expiry and to the largest 32-bit value above it. Every statement here gives
the exact value in natural numbers of what the code computes in machine words, so none of the
additions and subtractions wraps. Main statement: `lifetimes_never_wrap`. -/
namespace GssApi

/-- The saturating sum of two times is their exact sum, cut at the largest time. -/
theorem toNat_addSaturating (a b : UInt64) :
    (addSaturating a b).toNat = min (a.toNat + b.toNat) (2 ^ 64 - 1) := by
  unfold addSaturating
  split
  · rename_i fits
    rw [UInt64.toNat_add, Nat.mod_eq_of_lt fits]
    simp only [UInt64.size] at fits
    omega
  · rename_i overflows
    simp only [UInt64.size] at overflows
    rw [UInt64.toNat_ofNat_of_lt' (by simp [UInt64.size])]
    simp only [UInt64.size]
    omega

/-- The seconds until a time are the exact difference, or zero once the time has passed. -/
theorem toNat_secondsUntil (endtime now : UInt64) :
    (secondsUntil endtime now).toNat = endtime.toNat - now.toNat := by
  unfold secondsUntil
  split
  · rename_i notPast
    rw [UInt64.toNat_sub_of_le _ _ notPast]
  · rename_i past
    have later := UInt64.lt_iff_toNat_lt.1 (UInt64.not_le.1 past)
    simp only [UInt64.toNat_zero]
    omega

namespace Krb5

/-- At any clock value a context reports the seconds left, zero after its expiry and at most
the largest 32-bit value. -/
theorem Context.toNat_remaining_cut (ctx : Context) (now : UInt64) :
    (ctx.remaining now).toNat = min (ctx.endtime.toNat - now.toNat) (2 ^ 32 - 1) := by
  have capped : min (ctx.endtime.toNat - now.toNat) 0xFFFFFFFF < UInt32.size :=
    Nat.lt_of_le_of_lt (Nat.min_le_right _ _) (by decide)
  rw [Context.remaining, toNat_secondsUntil, UInt32.toNat_ofNat_of_lt' capped]
  rfl

namespace Mechanism

variable {m : Mechanism}

/-- The lifetime an initiator asks for is the request's when it is given and positive, and the
configured default otherwise. -/
theorem toNat_requestedLifetime (lifetime : Option UInt32) :
    (m.requestedLifetime lifetime).toNat =
      ((lifetime.filter fun secs => 0 < secs).map UInt32.toNat).getD m.config.defaultLifetime.toNat := by
  rcases lifetime with _ | secs
  · rfl
  · by_cases positive : 0 < secs
    · simp [requestedLifetime, Option.filter, positive]
    · simp [requestedLifetime, Option.filter, positive]

/-- Everything a successful initiator step did: it read the target's principal, found a ticket
for it that had not expired, and built and framed a request on the ticket's session key, whose
authenticator carries the requested flags and which asks for a reply exactly when mutual
authentication was requested; the context holds that key and ends at the earlier of the
ticket's expiry and the lifetime asked for, and the lifetime reported is what the context has
left. -/
theorem initiate_answer {env : Environment} {req : InitRequest} {r : RandomSource} {ctx : Context}
    {out : StepOutput} (ran : ((m.initiate env req).run.run r).1 = .ok (ctx, out)) :
    ∃ server ticket r₁, canonicalize req.target = .ok server ∧
      (m.ticketFor env req.credential server).run.run r = (.ok ticket, r₁) ∧
      env.now < ticket.endtime ∧
      (∃ seq r₂ body, ((Exchange.buildRequest m.suite ticket
          ⟨ticket.client, env.now, seq, { flags := req.flags }⟩
          (ContextFlags.has req.flags ContextFlags.mutualAuth)).run.run r₂).1 = .ok body ∧
        Codec.encapsulateTagged Oid.krb5 .apReq body = .ok out.outputToken) ∧
      ctx.key = ticket.sessionKey ∧
      ctx.endtime = min ticket.endtime (addSaturating env.now (m.requestedLifetime req.lifetime)) ∧
      out.lifetime = ctx.remaining env.now := by
  unfold initiate at ran
  dsimp only at ran
  -- each guard either throws, which cannot succeed, or lets the rest run
  split at ran
  · obtain ⟨_, _, thrown, -⟩ := Rand.bind_eq_ok ran
    cases thrown
  obtain ⟨server, r₀, read, ran⟩ := Rand.bind_eq_ok ran
  rw [Rand.run_ofExcept] at read
  obtain ⟨canonical, rfl⟩ := Prod.mk.inj read
  obtain ⟨ticket, r₁, found, ran⟩ := Rand.bind_eq_ok ran
  split at ran
  · obtain ⟨_, _, thrown, -⟩ := Rand.bind_eq_ok ran
    cases thrown
  rename_i notExpired
  obtain ⟨seq, r₂, -, ran⟩ := Rand.bind_eq_ok ran
  obtain ⟨body, r₃, built, ran⟩ := Rand.bind_eq_ok ran
  rw [Rand.run_mapError] at built
  obtain ⟨token, r₄, framed, ran⟩ := Rand.bind_eq_ok ran
  rw [Rand.run_ofExcept] at framed
  cases ran
  exact ⟨server, ticket, r₁, canonical, found, UInt64.not_le.1 notExpired,
    ⟨_, r₂, body, Except.mapError_eq_ok.1 (Prod.mk.inj built).1,
      Except.mapError_eq_ok.1 (Prod.mk.inj framed).1⟩, rfl, rfl, rfl⟩

/-- The seconds left on a context: a positive count below its expiry, and an expired context
after it. -/
theorem contextTime_eq (env : Environment) (ctx : Context) :
    (env.now < ctx.endtime → ∃ secs, contextTime env (.krb5 ctx) = .ok secs ∧
      secs.toNat = min (ctx.endtime.toNat - env.now.toNat) (2 ^ 32 - 1)) ∧
    (ctx.endtime ≤ env.now → contextTime env (.krb5 ctx) = .error .contextExpired) := by
  have left := ctx.toNat_remaining_cut env.now
  refine ⟨fun live => ⟨ctx.remaining env.now, ?_, left⟩, fun expired => ?_⟩
  · have later := UInt64.lt_iff_toNat_lt.1 live
    have positive : ctx.remaining env.now ≠ 0 := by
      intro zero
      rw [zero, UInt32.toNat_zero] at left
      omega
    simp [contextTime, bound, positive, bind, Except.bind, pure, Except.pure]
  · have earlier := UInt64.le_iff_toNat_le.1 expired
    have zero : ctx.remaining env.now = 0 := by
      apply UInt32.toNat_inj.1
      rw [left, UInt32.toNat_zero]
      omega
    simp [contextTime, bound, zero, bind, Except.bind, throw, throwThe, MonadExceptOf.throw]

/-- Inquiring reports the seconds left, zero once the context has expired. -/
theorem inquire_lifetime (env : Environment) (ctx : Context) :
    ∃ info, inquire env (.krb5 ctx) = .ok info ∧
      info.lifetime.toNat = min (ctx.endtime.toNat - env.now.toNat) (2 ^ 32 - 1) :=
  ⟨_, rfl, ctx.toNat_remaining_cut env.now⟩

/-- No expiry or lifetime computation wraps, for any 64-bit clock, ticket expiry, requested
lifetime and configured default.

* An initiator's first step succeeds only on a ticket that expires after now. With `L` the
  lifetime asked for when given and positive, and the configured default otherwise, the context
  ends at the earlier of the ticket's expiry and `now + L` cut at the largest time, and the
  lifetime reported is the least of the time left on the ticket, `L` and the largest 32-bit
  value; it is positive exactly when `L` is.
* At any clock value, the remaining time of any context is the exact time left, capped at the
  largest 32-bit value, and an expired context after its expiry; inquiring reports the same
  count, zero after expiry.
* An acceptor's context ends with the ticket it accepted, which expires after now, and its
  reported lifetime is the time left on the ticket, capped at the largest 32-bit value. -/
theorem lifetimes_never_wrap :
    (∀ (m : Mechanism) (env : Environment) (req : InitRequest) (r : RandomSource) (ctx : Context)
        (out : StepOutput), ((m.initiate env req).run.run r).1 = .ok (ctx, out) →
      ∃ server ticket r₁, canonicalize req.target = .ok server ∧
        (m.ticketFor env req.credential server).run.run r = (.ok ticket, r₁) ∧
        env.now < ticket.endtime ∧
        let asked := ((req.lifetime.filter fun secs => 0 < secs).map UInt32.toNat).getD
          m.config.defaultLifetime.toNat
        ctx.endtime.toNat = min ticket.endtime.toNat (min (env.now.toNat + asked) (2 ^ 64 - 1)) ∧
        out.lifetime.toNat = min (ticket.endtime.toNat - env.now.toNat) (min asked (2 ^ 32 - 1)) ∧
        (0 < out.lifetime.toNat ↔ 0 < asked)) ∧
    (∀ (env : Environment) (ctx : Context),
      (env.now < ctx.endtime → ∃ secs, contextTime env (.krb5 ctx) = .ok secs ∧
        secs.toNat = min (ctx.endtime.toNat - env.now.toNat) (2 ^ 32 - 1)) ∧
      (ctx.endtime ≤ env.now → contextTime env (.krb5 ctx) = .error .contextExpired) ∧
      ∃ info, inquire env (.krb5 ctx) = .ok info ∧
        info.lifetime.toNat = min (ctx.endtime.toNat - env.now.toNat) (2 ^ 32 - 1)) ∧
    (∀ (m : Mechanism) (env : Environment) (req : AcceptRequest) (r : RandomSource) (ctx : Context)
        (out : StepOutput), ((m.acceptRequest env req).run.run r).1 = .ok (ctx, out) →
      ∃ acceptor request, m.checkRequest env req = .ok (acceptor, request) ∧
        env.now < request.ticket.endtime ∧ ctx.endtime = request.ticket.endtime ∧
        out.lifetime.toNat = min (request.ticket.endtime.toNat - env.now.toNat) (2 ^ 32 - 1)) := by
  refine ⟨fun m env req r ctx out ran => ?_, fun env ctx => ⟨(contextTime_eq env ctx).1,
    (contextTime_eq env ctx).2, inquire_lifetime env ctx⟩, fun m env req r ctx out ran => ?_⟩
  · obtain ⟨server, ticket, r₁, canonical, found, live, -, -, ends, reported⟩ := initiate_answer ran
    refine ⟨server, ticket, r₁, canonical, found, live, ?_⟩
    intro asked
    have asked_eq : (m.requestedLifetime req.lifetime).toNat = asked := toNat_requestedLifetime _
    -- the end is the earlier of two times, and the sum saturates exactly at the largest time
    have endtime : ctx.endtime.toNat = min ticket.endtime.toNat (min (env.now.toNat + asked) (2 ^ 64 - 1)) := by
      rw [ends, UInt64.toNat_min, toNat_addSaturating, asked_eq]
    have later := UInt64.lt_iff_toNat_lt.1 live
    have bounded := ticket.endtime.toNat_lt
    have lifetime : out.lifetime.toNat =
        min (ticket.endtime.toNat - env.now.toNat) (min asked (2 ^ 32 - 1)) := by
      rw [reported, Context.toNat_remaining_cut, endtime]
      omega
    refine ⟨endtime, lifetime, ?_⟩
    rw [lifetime]
    omega
  · obtain ⟨acceptor, request, sendSeq, checked, rfl, -, -, reported, -⟩ := acceptRequest_answer ran
    obtain ⟨-, -, -, -, -, live, -⟩ := checkRequest_eq_ok checked
    refine ⟨acceptor, request, checked, live, rfl, ?_⟩
    rw [reported]
    exact Context.toNat_remaining_cut _ _

end Mechanism

end Krb5

end GssApi
