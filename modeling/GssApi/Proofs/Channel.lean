import GssApi.Proofs.SupportedKeys

/-! A protected channel between two established contexts delivers in order, each token once.

A `Channel` is a sender and a receiver that share a session key and face each other, with
the tokens each has sent so far. Its events are the traffic of a whole conversation: the
sender wraps or signs messages, the receiver does so for the way back, and tokens reach
either side in any order, any number of times or never, each wrap token unwrapped and each
integrity token checked against its own message. Every token the receiver is handed is
logged with what it delivered.

`Channel.inOrder` is the ideal receiver: it delivers a token exactly when it is the next one
not yet delivered, and then hands over that token's message. `deliveries_in_order` says the
receiver's log is the ideal one for every run in which the sender sends fewer than `2 ^ 32`
tokens. It rests on one invariant (`Channel.Synced`): the sender's next sequence number is
the start plus the tokens sent, the receiver expects the start plus the tokens delivered, and
each token sent carries the start plus its index. Wrap and integrity tokens share the count,
and traffic on the way back moves neither number. -/
namespace GssApi.Krb5

/-- How a message travels: wrapped, or beside an integrity token. -/
inductive Protection where
  | wrap
  | mic
  deriving DecidableEq

/-- A token on its way, with the message it protects. -/
structure Sent where
  protection : Protection
  message : Bytes
  token : Bytes

namespace Channel

/-- Protect a message with a context; a wrap draws its confounder from `random`. -/
def protect (m : Mechanism) (ctx : Context) (random : RandomSource) (protection : Protection)
    (message : Bytes) : Except GssError (Bytes × Context) :=
  match protection with
  | .wrap => ((m.wrapMessage ctx message).run.run random).1
  | .mic => m.micMessage ctx message

/-- Hand a token to a context: unwrap a wrap token, check an integrity token against its own
message. A token that is taken delivers its message. -/
def receive (m : Mechanism) (ctx : Context) (t : Sent) : Except GssError (Bytes × Context) :=
  match t.protection with
  | .wrap => m.unwrapMessage ctx t.token
  | .mic => (fun ctx' => (t.message, ctx')) <$> m.verifyMicMessage ctx t.message t.token

end Channel

/-- The two ends of a conversation and its traffic so far: the sender's tokens in sending
order, the receiver's tokens for the way back, and every token handed to the receiver, by its
index among the sender's tokens, with what it delivered. -/
structure Channel where
  sender : Context
  receiver : Context
  forward : List Sent := []
  backward : List Sent := []
  deliveries : List (Nat × Option Bytes) := []

namespace Channel

/-- What can happen in a conversation. -/
inductive Event where
  /-- The sender protects a message. -/
  | send (protection : Protection) (message : Bytes) (random : RandomSource)
  /-- The receiver protects a message for the way back. -/
  | answer (protection : Protection) (message : Bytes) (random : RandomSource)
  /-- The sender's token of this index reaches the receiver. -/
  | deliver (index : Nat)
  /-- The receiver's token of this index reaches the sender. -/
  | deliverBack (index : Nat)

/-- One event. A failed call leaves both ends as they were; a token that does not exist yet
is not handed over. -/
def step (m : Mechanism) (c : Channel) : Event → Channel
  | .send protection message random =>
    match protect m c.sender random protection message with
    | .ok (token, sender) => { c with sender, forward := c.forward ++ [⟨protection, message, token⟩] }
    | .error _ => c
  | .answer protection message random =>
    match protect m c.receiver random protection message with
    | .ok (token, receiver) =>
      { c with receiver, backward := c.backward ++ [⟨protection, message, token⟩] }
    | .error _ => c
  | .deliver index =>
    match c.forward[index]? with
    | some t =>
      match receive m c.receiver t with
      | .ok (message, receiver) => { c with receiver, deliveries := c.deliveries ++ [(index, some message)] }
      | .error _ => { c with deliveries := c.deliveries ++ [(index, none)] }
    | none => c
  | .deliverBack index =>
    match c.backward[index]? with
    | some t =>
      match receive m c.sender t with
      | .ok (_, sender) => { c with sender }
      | .error _ => c
    | none => c

/-- A whole conversation. -/
def run (m : Mechanism) (c : Channel) (events : List Event) : Channel := events.foldl (step m) c

/-- The ideal receiver of the tokens `sent`, having delivered the first `next` of them: of the
tokens handed to it, by index, it delivers exactly the next one not yet delivered. -/
def inOrder (sent : List Sent) (next : Nat) : List Nat → List (Option Bytes)
  | [] => []
  | index :: rest =>
    match sent[index]? with
    | some t =>
      if index = next then some t.message :: inOrder sent (next + 1) rest
      else none :: inOrder sent next rest
    | none => none :: inOrder sent next rest

/-- How many of the logged attempts delivered a message. -/
def taken (log : List (Nat × Option Bytes)) : Nat := (log.map Prod.snd).countP Option.isSome

/-! ### The ideal receiver -/

/-- Attempts made one after another: the second batch meets the ideal receiver as the first
left it. -/
theorem inOrder_append (sent : List Sent) (next : Nat) (first later : List Nat) :
    inOrder sent next (first ++ later) =
      inOrder sent next first ++
        inOrder sent (next + (inOrder sent next first).countP Option.isSome) later := by
  induction first generalizing next with
  | nil => simp [inOrder]
  | cons index rest ih =>
    simp only [List.cons_append, inOrder]
    split
    · split
      · simp [ih, Nat.add_assoc, Nat.add_comm 1]
      · simp [ih]
    · simp [ih]

theorem inOrder_singleton (sent : List Sent) (next index : Nat) :
    inOrder sent next [index] =
      [match sent[index]? with
        | some t => if index = next then some t.message else none
        | none => none] := by
  simp only [inOrder]
  split
  · split <;> rfl
  · rfl

/-- Tokens sent later do not change what the ideal receiver made of earlier attempts. -/
theorem inOrder_append_sent {sent : List Sent} (more : List Sent) (next : Nat) {attempts : List Nat}
    (existing : ∀ index ∈ attempts, index < sent.length) :
    inOrder (sent ++ more) next attempts = inOrder sent next attempts := by
  induction attempts generalizing next with
  | nil => rfl
  | cons index rest ih =>
    have present := existing index (List.mem_cons_self ..)
    have remaining : ∀ index ∈ rest, index < sent.length := fun i mem =>
      existing i (List.mem_cons_of_mem _ mem)
    simp only [inOrder, List.getElem?_append_left present, ih _ remaining]

/-- The ideal receiver hands over the messages of the tokens from `next` on, in sending
order, each once. -/
theorem filterMap_inOrder (sent : List Sent) (next : Nat) (attempts : List Nat) :
    (inOrder sent next attempts).filterMap id =
      ((sent.drop next).take ((inOrder sent next attempts).countP Option.isSome)).map
        Sent.message := by
  induction attempts generalizing next with
  | nil => simp [inOrder]
  | cons index rest ih =>
    -- an attempt that delivers nothing leaves both sides as they were
    have skipped : (none :: inOrder sent next rest).filterMap id =
        ((sent.drop next).take ((none :: inOrder sent next rest).countP Option.isSome)).map
          Sent.message := by
      rw [List.filterMap_cons_none rfl, List.countP_cons_of_neg (by decide), ih]
    simp only [inOrder]
    split
    · rename_i t found
      split
      · subst index
        obtain ⟨below, item⟩ := List.getElem?_eq_some_iff.1 found
        have dropped : sent.drop next = t :: sent.drop (next + 1) := by
          rw [List.drop_eq_getElem_cons below, item]
        rw [List.filterMap_cons_some (f := id) rfl, List.countP_cons_of_pos rfl, dropped, List.take_succ_cons,
          List.map_cons, ih]
      · exact skipped
    · exact skipped

/-! ### One end -/

variable {m : Mechanism}

/-- Protecting a message moves the send counter on by one and changes nothing else. -/
theorem protect_eq_ok {ctx ctx' : Context} {random : RandomSource} {protection : Protection}
    {message token : Bytes} (sent : protect m ctx random protection message = .ok (token, ctx')) :
    ctx' = { ctx with sendSeq := ctx.sendSeq + 1 } := by
  cases protection with
  | wrap =>
    obtain ⟨_, _, _, _, -, -, -, -, -, advanced⟩ := Mechanism.wrapMessage_eq_ok sent
    exact advanced
  | mic =>
    obtain ⟨_, _, _, -, -, -, -, advanced⟩ := Mechanism.micMessage_eq_ok sent
    exact advanced

/-- A token is only taken by an established context, which then moves its receive counter on
by one and changes nothing else. -/
theorem receive_eq_ok {ctx ctx' : Context} {t : Sent} {message : Bytes}
    (received : receive m ctx t = .ok (message, ctx')) :
    ctx.phase = .established ∧ ctx' = { ctx with recvSeq := ctx.recvSeq + 1 } := by
  rcases t with ⟨_ | _, sentMessage, token⟩
  · exact Mechanism.unwrapMessage_eq_ok received
  · obtain ⟨verifiedCtx, verified, same⟩ := Except.map_eq_ok.1 received
    cases same
    exact Mechanism.verifyMicMessage_eq_ok verified

/-- A token protected by one end is taken by the facing end holding the same key exactly when
its sequence number is the one that end expects, and then it delivers its own message. -/
theorem receive_of_protect (lawful : m.suite.Lawful) {sender sender' receiver : Context}
    {random : RandomSource} {t : Sent}
    (sent : protect m sender random t.protection t.message = .ok (t.token, sender'))
    (sameKey : receiver.key = sender.key) (facing : receiver.role.peer = sender.role)
    (established : receiver.phase = .established) :
    receive m receiver t =
      if sender.sendSeq = receiver.recvSeq then
        .ok (t.message, { receiver with recvSeq := receiver.recvSeq + 1 })
      else .error (.badMic (sequenceClass receiver.recvSeq sender.sendSeq ++ " token") 0) := by
  rcases t with ⟨_ | _, message, token⟩
  · exact Mechanism.unwrapMessage_of_wrapMessage lawful sent sameKey facing established
  · simp only [receive]
    rw [Mechanism.verifyMicMessage_of_micMessage lawful sent sameKey facing established]
    split <;> rfl

/-! ### Sequence numbers -/

/-- Counting on from any start, fewer than `2 ^ 32` steps never come back to a number already
counted, even when the count wraps through zero. -/
theorem counter_eq_iff (start : UInt32) {i j : Nat} (few : i < 2 ^ 32) (few' : j < 2 ^ 32) :
    start + UInt32.ofNat i = start + UInt32.ofNat j ↔ i = j := by
  rw [UInt32.add_right_inj]
  constructor
  · intro same
    have values := congrArg UInt32.toNat same
    simp only [UInt32.toNat_ofNat'] at values
    omega
  · rintro rfl
    rfl

theorem counter_succ (start : UInt32) (i : Nat) :
    start + UInt32.ofNat i + 1 = start + UInt32.ofNat (i + 1) := by
  rw [UInt32.add_assoc, UInt32.ofNat_add]
  rfl

/-! ### The invariant -/

/-- The invariant of a conversation whose counters both started at `start`: the two ends
still share their key and face each other, the receiver is established, the sender has
counted every token it sent and the receiver every token it took, each token sent was
protected by the sender at the number of its index, and the receiver has so far behaved as
the ideal one. -/
structure Synced (m : Mechanism) (start : UInt32) (c : Channel) : Prop where
  sameKey : c.receiver.key = c.sender.key
  facing : c.receiver.role.peer = c.sender.role
  established : c.receiver.phase = .established
  sendSeq : c.sender.sendSeq = start + UInt32.ofNat c.forward.length
  recvSeq : c.receiver.recvSeq = start + UInt32.ofNat (taken c.deliveries)
  sealed : ∀ i t, c.forward[i]? = some t → ∃ ctx ctx' random,
    ctx.key = c.sender.key ∧ ctx.role = c.sender.role ∧ ctx.sendSeq = start + UInt32.ofNat i ∧
      protect m ctx random t.protection t.message = .ok (t.token, ctx')
  logged : c.deliveries.map Prod.snd = inOrder c.forward 0 (c.deliveries.map Prod.fst)
  attempted : ∀ d ∈ c.deliveries, d.1 < c.forward.length
  takenLe : taken c.deliveries ≤ c.forward.length

/-- Two ends that share a key, face each other and agree on the next number start in sync. -/
theorem synced_start {sender receiver : Context} (sameKey : receiver.key = sender.key)
    (facing : receiver.role.peer = sender.role) (established : receiver.phase = .established)
    (agreed : receiver.recvSeq = sender.sendSeq) :
    Synced m sender.sendSeq { sender, receiver } where
  sameKey := sameKey
  facing := facing
  established := established
  sendSeq := (UInt32.add_zero _).symm
  recvSeq := agreed.trans (UInt32.add_zero _).symm
  sealed := by simp
  logged := rfl
  attempted := by simp
  takenLe := by simp [taken]

/-! ### One step -/

variable {start : UInt32} {c : Channel}

theorem taken_append (log : List (Nat × Option Bytes)) (index : Nat) (outcome : Option Bytes) :
    taken (log ++ [(index, outcome)]) = taken log + if outcome.isSome then 1 else 0 := by
  simp only [taken, List.map_append, List.countP_append]
  cases outcome <;> rfl

/-- A sent token joins the traffic protected at the number of its index. -/
theorem Synced.send (h : Synced m start c) {protection : Protection} {message token : Bytes}
    {random : RandomSource} {sender' : Context}
    (sent : protect m c.sender random protection message = .ok (token, sender')) :
    Synced m start
      { c with sender := sender', forward := c.forward ++ [⟨protection, message, token⟩] } := by
  have advanced := protect_eq_ok sent
  subst advanced
  have earlier : ∀ index ∈ c.deliveries.map Prod.fst, index < c.forward.length := by
    simp only [List.mem_map]
    rintro _ ⟨d, logged, rfl⟩
    exact h.attempted d logged
  refine ⟨h.sameKey, h.facing, h.established, ?_, h.recvSeq, ?_, ?_, ?_, ?_⟩
  · simp only [List.length_append, List.length_singleton, h.sendSeq, counter_succ]
  · intro i t found
    by_cases old : i < c.forward.length
    · rw [List.getElem?_append_left old] at found
      exact h.sealed i t found
    · rw [List.getElem?_append_right (by omega), List.getElem?_singleton] at found
      split at found
      · cases found
        have last : i = c.forward.length := by omega
        exact ⟨c.sender, _, random, rfl, rfl, last ▸ h.sendSeq, sent⟩
      · cases found
  · show c.deliveries.map Prod.snd = inOrder (c.forward ++ _) 0 (c.deliveries.map Prod.fst)
    rw [inOrder_append_sent _ 0 earlier]
    exact h.logged
  · intro d logged
    have before := h.attempted d logged
    simp only [List.length_append, List.length_singleton]
    omega
  · have before := h.takenLe
    simp only [List.length_append, List.length_singleton]
    exact Nat.le_succ_of_le before

/-- Traffic on the way back moves the receiver's send counter only. -/
theorem Synced.answer (h : Synced m start c) {protection : Protection} {message token : Bytes}
    {random : RandomSource} {receiver' : Context}
    (sent : protect m c.receiver random protection message = .ok (token, receiver')) :
    Synced m start
      { c with receiver := receiver', backward := c.backward ++ [⟨protection, message, token⟩] } := by
  have advanced := protect_eq_ok sent
  subst advanced
  exact ⟨h.sameKey, h.facing, h.established, h.sendSeq, h.recvSeq, h.sealed, h.logged,
    h.attempted, h.takenLe⟩

/-- Taking a token on the way back moves the sender's receive counter only. -/
theorem Synced.deliverBack (h : Synced m start c) {t : Sent} {message : Bytes} {sender' : Context}
    (received : receive m c.sender t = .ok (message, sender')) :
    Synced m start { c with sender := sender' } := by
  obtain ⟨-, advanced⟩ := receive_eq_ok received
  subst advanced
  exact ⟨h.sameKey, h.facing, h.established, h.sendSeq, h.recvSeq, h.sealed, h.logged,
    h.attempted, h.takenLe⟩

/-- In a conversation in sync, the receiver takes a token exactly when its index is the count
of tokens taken so far; any other is refused for its sequence number. -/
theorem Synced.receive_eq (lawful : m.suite.Lawful) (h : Synced m start c) {index : Nat} {t : Sent}
    (found : c.forward[index]? = some t) (few : c.forward.length < 2 ^ 32) :
    receive m c.receiver t =
      if index = taken c.deliveries then
        .ok (t.message, { c.receiver with recvSeq := c.receiver.recvSeq + 1 })
      else .error (.badMic
        (sequenceClass c.receiver.recvSeq (start + UInt32.ofNat index) ++ " token") 0) := by
  obtain ⟨ctx, ctx', random, key, role, numbered, sent⟩ := h.sealed index t found
  have below : index < c.forward.length := (List.getElem?_eq_some_iff.1 found).1
  have counted := h.takenLe
  have expected : ctx.sendSeq = c.receiver.recvSeq ↔ index = taken c.deliveries := by
    rw [numbered, h.recvSeq]
    exact counter_eq_iff start (by omega) (by omega)
  rw [receive_of_protect lawful sent (h.sameKey.trans key.symm) (h.facing.trans role.symm)
    h.established, numbered]
  simp only [← numbered, expected]

/-- The receiver takes the next token: it counts it and logs its message. -/
theorem Synced.take (h : Synced m start c) {index : Nat} {t : Sent}
    (found : c.forward[index]? = some t) (next : index = taken c.deliveries) :
    Synced m start
      { c with
        receiver := { c.receiver with recvSeq := c.receiver.recvSeq + 1 }
        deliveries := c.deliveries ++ [(index, some t.message)] } := by
  have below : index < c.forward.length := (List.getElem?_eq_some_iff.1 found).1
  refine ⟨h.sameKey, h.facing, h.established, h.sendSeq, ?_, h.sealed, ?_, ?_, ?_⟩
  · rw [taken_append, h.recvSeq, counter_succ]
    rfl
  · have count : (c.deliveries.map Prod.snd).countP Option.isSome = taken c.deliveries := rfl
    simp only [List.map_append, List.map_singleton, inOrder_append, ← h.logged, count,
      Nat.zero_add, inOrder_singleton, found, if_pos next]
  · intro d logged
    rcases List.mem_append.1 logged with old | new
    · exact h.attempted d old
    · simp only [List.mem_singleton] at new
      subst new
      exact below
  · rw [taken_append]
    simp only [Option.isSome_some, if_true]
    omega

/-- The receiver refuses any other token: only the log records the attempt. -/
theorem Synced.refuse (h : Synced m start c) {index : Nat} {t : Sent}
    (found : c.forward[index]? = some t) (other : index ≠ taken c.deliveries) :
    Synced m start { c with deliveries := c.deliveries ++ [(index, none)] } := by
  have below : index < c.forward.length := (List.getElem?_eq_some_iff.1 found).1
  refine ⟨h.sameKey, h.facing, h.established, h.sendSeq, ?_, h.sealed, ?_, ?_, ?_⟩
  · rw [taken_append, h.recvSeq]
    rfl
  · have count : (c.deliveries.map Prod.snd).countP Option.isSome = taken c.deliveries := rfl
    simp only [List.map_append, List.map_singleton, inOrder_append, ← h.logged, count,
      Nat.zero_add, inOrder_singleton, found, if_neg other]
  · intro d logged
    rcases List.mem_append.1 logged with old | new
    · exact h.attempted d old
    · simp only [List.mem_singleton] at new
      subst new
      exact below
  · rw [taken_append]
    exact h.takenLe

/-! ### Whole conversations -/

theorem forward_deliver (index : Nat) : (step m c (.deliver index)).forward = c.forward := by
  simp only [step]
  split
  · split <;> rfl
  · rfl

/-- Handing over a token that was sent logs the attempt under its index, whatever the receiver
answers. -/
theorem deliveries_deliver {index : Nat} (sent : index < c.forward.length) :
    (step m c (.deliver index)).deliveries.map Prod.fst = c.deliveries.map Prod.fst ++ [index] := by
  have found : c.forward[index]? = some c.forward[index] := List.getElem?_eq_getElem sent
  simp only [step, found]
  split <;> simp

/-- Handing over tokens that were sent, one after another, logs every attempt in order and
sends nothing. -/
theorem run_deliver {indices : List Nat} (sent : ∀ index ∈ indices, index < c.forward.length) :
    (run m c (indices.map .deliver)).forward = c.forward ∧
      (run m c (indices.map .deliver)).deliveries.map Prod.fst =
        c.deliveries.map Prod.fst ++ indices := by
  -- induction on the attempts, from any channel holding the tokens handed over
  induction indices generalizing c with
  | nil => exact ⟨rfl, by simp [run]⟩
  | cons index rest ih =>
    have kept := forward_deliver (m := m) (c := c) index
    obtain ⟨forward, logged⟩ := ih (c := step m c (.deliver index)) fun later member => by
      rw [kept]
      exact sent later (List.mem_cons_of_mem index member)
    refine ⟨forward.trans kept, ?_⟩
    rw [List.map_cons, run, List.foldl_cons, ← run, logged,
      deliveries_deliver (sent index List.mem_cons_self), List.append_assoc, List.singleton_append]

/-- The sender's tokens are never taken back. -/
theorem length_forward_step (c : Channel) (e : Event) :
    c.forward.length ≤ (step m c e).forward.length := by
  cases e with
  | send protection message random =>
    simp only [step]
    split <;> simp
  | answer protection message random =>
    simp only [step]
    split <;> simp
  | deliver index => exact Nat.le_of_eq (congrArg List.length (forward_deliver index)).symm
  | deliverBack index =>
    simp only [step]
    split
    · split <;> simp
    · simp

theorem length_forward_run (c : Channel) (events : List Event) :
    c.forward.length ≤ (run m c events).forward.length := by
  induction events generalizing c with
  | nil => exact Nat.le_refl _
  | cons e rest ih => exact Nat.le_trans (length_forward_step c e) (ih (step m c e))

/-- Every event keeps a conversation in sync while the sender has sent fewer than `2 ^ 32`
tokens. -/
theorem Synced.step (lawful : m.suite.Lawful) (h : Synced m start c) (e : Event)
    (few : (step m c e).forward.length < 2 ^ 32) : Synced m start (step m c e) := by
  cases e with
  | send protection message random =>
    simp only [Channel.step]
    split
    · rename_i sent
      exact h.send sent
    · exact h
  | answer protection message random =>
    simp only [Channel.step]
    split
    · rename_i sent
      exact h.answer sent
    · exact h
  | deliver index =>
    rw [forward_deliver] at few
    simp only [Channel.step]
    split
    · rename_i t found
      rw [h.receive_eq lawful found few]
      by_cases next : index = taken c.deliveries
      · simp only [if_pos next]
        exact h.take found next
      · simp only [if_neg next]
        exact h.refuse found next
    · exact h
  | deliverBack index =>
    simp only [Channel.step]
    split
    · split
      · rename_i received
        exact h.deliverBack received
      · exact h
    · exact h

/-- A conversation in sync stays in sync for its whole run, as long as the sender sends fewer
than `2 ^ 32` tokens in all. -/
theorem Synced.run (lawful : m.suite.Lawful) (h : Synced m start c) (events : List Event)
    (few : (run m c events).forward.length < 2 ^ 32) : Synced m start (run m c events) := by
  -- the bound is on the whole run, so each step sees it through the steps after it
  induction events generalizing c with
  | nil => exact h
  | cons e rest ih =>
    have stepped := h.step lawful e (Nat.lt_of_le_of_lt (length_forward_run _ rest) few)
    exact ih stepped few

/-- Two established contexts that share a key, face each other and agree on the next sequence
number form a channel that delivers in order: whatever the sender wraps or signs, whatever
travels the other way, and in whatever order and how often tokens reach the receiver, an
attempt delivers exactly when it is the token after the last one delivered, and then it
delivers that token's message. The messages delivered are those of the first tokens sent, in
sending order, each once. The counters may start anywhere and wrap through zero; the sender
sends fewer than `2 ^ 32` tokens. -/
theorem deliveries_in_order (lawful : m.suite.Lawful) {sender receiver : Context}
    (sameKey : receiver.key = sender.key) (facing : receiver.role.peer = sender.role)
    (established : receiver.phase = .established) (agreed : receiver.recvSeq = sender.sendSeq)
    (events : List Event) (few : (run m { sender, receiver } events).forward.length < 2 ^ 32) :
    let final := run m { sender, receiver } events
    final.deliveries.map Prod.snd = inOrder final.forward 0 (final.deliveries.map Prod.fst) ∧
      final.deliveries.filterMap Prod.snd =
        (final.forward.take (taken final.deliveries)).map Sent.message := by
  intro final
  have synced := (synced_start sameKey facing established agreed).run lawful events few
  refine ⟨synced.logged, ?_⟩
  have delivered := filterMap_inOrder final.forward 0 (final.deliveries.map Prod.fst)
  rw [← synced.logged, List.filterMap_map, List.drop_zero] at delivered
  exact delivered

/-- Over the identity cipher, which is lawful, two contexts on a single-DES key whose counters
start one below `2 ^ 32` hold a conversation: the sender wraps one message and signs another,
and the receiver is handed the second token first, then the first twice, then the second again.
It takes the first token once and then the second, across the counters' wrap through zero, and
refuses the early and the repeated attempt. -/
theorem deliveries_in_order_out_of_order_and_twice :
    let m : Mechanism := { suite := ⟨⟨fun _ => ⟨id, id⟩⟩, ⟨fun _ => ⟨id, id⟩⟩⟩ }
    let sender : Context :=
      { (default : Context) with
        role := .initiator, phase := .established, key := ⟨.desCbcMd5, List.replicate 8 1⟩,
        sendSeq := 0xFFFFFFFF, recvSeq := 0xFFFFFFFF }
    let receiver : Context := { sender with role := .acceptor }
    let events : List Event :=
      [.send .wrap [1] {}, .send .mic [2] {}, .deliver 1, .deliver 0, .deliver 0, .deliver 1]
    let final := run m { sender, receiver } events
    final.forward.map Sent.message = [[1], [2]] ∧
      final.deliveries = [(1, none), (0, some [1]), (0, none), (1, some [2])] := by
  intro m sender receiver events final
  have lawful : m.suite.Lawful := ⟨fun _ _ => rfl, fun _ _ => rfl⟩
  have supported : sender.key.Supported := ⟨.des, rfl, rfl⟩
  obtain ⟨p, made⟩ := Profile.forKey_ok supported
  -- both sends succeed: the wrap token is short, and an integrity token is always made
  have short : Mechanism.wrapContentLength p.kind [1].length < 2 ^ 32 :=
    (Mechanism.wrapContentLength_le p.kind 1).trans_lt (by decide)
  obtain ⟨wrapToken, wrapped⟩ :=
    Mechanism.wrapMessage_ok (m := m) supported made [1] (r := {}) (by decide) short
  obtain ⟨micToken, signed⟩ : ∃ token, m.micMessage { sender with sendSeq := sender.sendSeq + 1 } [2] =
      .ok (token, { sender with sendSeq := sender.sendSeq + 1 + 1 }) :=
    @Mechanism.micMessage_ok m { sender with sendSeq := sender.sendSeq + 1 } supported [2]
  let forward : List Sent := [⟨.wrap, [1], wrapToken⟩, ⟨.mic, [2], micToken⟩]
  let afterSends : Channel :=
    ⟨{ sender with sendSeq := sender.sendSeq + 1 + 1 }, receiver, forward, [], []⟩
  have sends : final = run m afterSends ([1, 0, 0, 1].map .deliver) := by
    simp only [final, events, run, List.foldl_cons, step, protect, wrapped, signed, List.map_cons,
      List.map_nil]
    rfl
  obtain ⟨kept, attempts⟩ := run_deliver (m := m) (c := afterSends)
    (show ∀ index ∈ [1, 0, 0, 1], index < afterSends.forward.length by simp [afterSends, forward])
  rw [← sends] at kept attempts
  have few : final.forward.length < 2 ^ 32 := by
    simp [kept, afterSends, forward]
  -- what each attempt delivers is what the ideal receiver delivers
  obtain ⟨logged, -⟩ := @deliveries_in_order m lawful sender receiver rfl rfl rfl rfl events few
  change final.deliveries.map Prod.snd = inOrder final.forward 0 (final.deliveries.map Prod.fst)
    at logged
  rw [kept, attempts] at logged
  simp only [afterSends, forward, inOrder, List.map_nil, List.nil_append] at logged
  refine ⟨by simp [kept, afterSends, forward], ?_⟩
  rw [← List.zip_unzip final.deliveries, List.unzip_fst, List.unzip_snd, attempts, logged]
  rfl

end Channel

end GssApi.Krb5
