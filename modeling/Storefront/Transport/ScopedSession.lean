import Storefront.Library.Run
import Storefront.Transport.DbSession

/-!
# Concurrent requests and the scoped session

`SQLAlchemyClient` keeps one session per value of the context variable `TRACE_ID`, and
`TraceIdMiddleware` sets that variable to the `X-Request-ID` header of the request when it
has one and to a new UUID otherwise. Everything a request does to its session — the writes
of the handler, the commit or the rollback of `init_ctx_db_session`, the removal — acts on
the session registered under its trace id at that moment.

The system `step` interleaves these actions for any number of requests. Writes carry the
request they come from, so that the committed state, a list of writes, shows whose writes
were committed. `Isolated` is what a transaction per request means: the writes of a request
that has finished are committed exactly when it is not a GET and ended without an exception.

Requests that share a trace id share a session, and the property fails
(`shared_trace_id_not_isolated`). It holds along every run in which a trace id is set only
while no request in flight has it (`isolated_of_fresh_trace_ids`). The invariant is `Inv`:
the pending writes under a trace id belong to the one request in flight that has it, and
each write made is pending, committed or given up according to the phase of its request.
-/

namespace Storefront

namespace ScopedSession

/-- What the middleware reads of a request: the method, the `X-Request-ID` header and the
UUID drawn in case there is none. -/
structure RequestInfo where
  method : Method
  header : Option String
  uuid : String
  deriving DecidableEq, Repr

/-- `request.headers.get(Settings().trace_id_header, str(uuid4()))` -/
def RequestInfo.traceId (info : RequestInfo) : String := info.header.getD info.uuid

/-- Where a request stands: not yet arrived; in its handler; returned from it, with the
commit to come; with an exception passing through `init_ctx_db_session`; with only the
removal of the session to come; finished. The last two remember whether the request ended
without an exception. -/
inductive Phase
  | waiting
  | running
  | returned
  | raised (e : PyExc)
  | closing (ok : Bool)
  | finished (ok : Bool)
  deriving DecidableEq, Repr

/-- Between the setting of the trace id and the removal of the session. -/
def Phase.inFlight : Phase → Prop
  | .waiting => False
  | .finished _ => False
  | _ => True

/-- One action of request `r`. -/
inductive Event (R W : Type)
  | setTraceId (r : R)
  | write (r : R) (w : W)
  | returns (r : R)
  | raises (r : R) (e : PyExc)
  | commit (r : R)
  | commitFails (r : R) (e : PyExc)
  | skipCommit (r : R)
  | handleError (r : R)
  | remove (r : R)
  deriving DecidableEq, Repr

/-- The phases of the requests, the uncommitted writes of the session registered under each
trace id (none for a session not created yet), and the committed writes. -/
structure State (R W : Type) where
  phase : R → Phase
  registry : String → List (R × W)
  committed : List (R × W)

variable {R W : Type} [DecidableEq R] (info : R → RequestInfo)

/-- Before any request. -/
def State.initial (R W : Type) : State R W := ⟨fun _ => .waiting, fun _ => [], []⟩

/-- Request `r` enters phase `ph`, leaves `session` as the uncommitted writes of the session
under its trace id and adds `published` to the committed writes. -/
def State.move (s : State R W) (r : R) (ph : Phase) (session published : List (R × W)) :
    State R W where
  phase := Function.update s.phase r ph
  registry := Function.update s.registry (info r).traceId session
  committed := s.committed ++ published

/-- The session `get_session()` gives request `r`. -/
def State.session (s : State R W) (r : R) : List (R × W) := s.registry (info r).traceId

/-- One action. It is possible in one phase of its request only. -/
def step (s : State R W) : Event R W → Option (State R W)
  | .setTraceId r =>
    match s.phase r with
    | .waiting => some (s.move info r .running (s.session info r) [])
    | _ => none
  | .write r w =>
    match s.phase r with
    | .running => some (s.move info r .running (s.session info r ++ [(r, w)]) [])
    | _ => none
  | .returns r =>
    match s.phase r with
    | .running => some (s.move info r .returned (s.session info r) [])
    | _ => none
  | .raises r e =>
    match s.phase r with
    | .running => some (s.move info r (.raised e) (s.session info r) [])
    | _ => none
  | .commit r =>
    match s.phase r with
    | .returned =>
      if (info r).method ≠ .get then some (s.move info r (.closing true) [] (s.session info r))
      else none
    | _ => none
  | .commitFails r e =>
    -- the transaction is rolled back by the failure
    match s.phase r with
    | .returned => if (info r).method ≠ .get then some (s.move info r (.raised e) [] []) else none
    | _ => none
  | .skipCommit r =>
    match s.phase r with
    | .returned =>
      if (info r).method = .get then some (s.move info r (.closing true) (s.session info r) [])
      else none
    | _ => none
  | .handleError r =>
    match s.phase r with
    | .raised e =>
      if !e.cls.issubclass .expectedError ∧ (info r).method ≠ .get then
        some (s.move info r (.closing false) [] [])
      else some (s.move info r (.closing false) (s.session info r) [])
    | _ => none
  | .remove r =>
    match s.phase r with
    | .closing ok => some (s.move info r (.finished ok) [] [])
    | _ => none

/-- The step relation of the system. -/
def Steps (s : State R W) (e : Event R W) (s' : State R W) : Prop := step info s e = some s'

/-- **A transaction per request**: the writes of a finished request are committed exactly
when it is not a GET and ended without an exception. -/
def Isolated (es : List (Event R W)) (s : State R W) : Prop :=
  ∀ r ok, s.phase r = .finished ok → ∀ w, Event.write r w ∈ es →
    ((r, w) ∈ s.committed ↔ (info r).method ≠ .get ∧ ok = true)

/-- The condition on a step: a trace id is set only while no request in flight has it. -/
def FreshTraceId (s : State R W) : Event R W → Prop
  | .setTraceId r => ∀ r', (s.phase r').inFlight → (info r').traceId ≠ (info r).traceId
  | _ => True

/-! ### The invariant -/

/-- What has become of a write of request `r`, by the phase `ph` of the request: pending
until the request has returned or raised, committed once the request has committed. -/
def Settled (s : State R W) (p : R × W) : Phase → Prop
  | .waiting => False
  | .running => p ∈ s.session info p.1
  | .returned => p ∈ s.session info p.1
  | .raised _ => True
  | .closing ok => ok = true → (info p.1).method ≠ .get → p ∈ s.committed
  | .finished ok => ok = true → (info p.1).method ≠ .get → p ∈ s.committed

/-- A request that has published its writes. -/
def Phase.published (ph : Phase) : Prop := ph = .closing true ∨ ph = .finished true

/-- The invariant of the runs that set fresh trace ids only. -/
structure Inv (es : List (Event R W)) (s : State R W) : Prop where
  /-- No two requests in flight have the same trace id. -/
  keys : ∀ r r', (s.phase r).inFlight → (s.phase r').inFlight →
    (info r).traceId = (info r').traceId → r = r'
  /-- A pending write is of a request in flight, under the trace id of that request. -/
  owner : ∀ k, ∀ p ∈ s.registry k, (s.phase p.1).inFlight ∧ (info p.1).traceId = k
  /-- A committed write is of a request that ended well and is not a GET. -/
  committed : ∀ p ∈ s.committed, (s.phase p.1).published ∧ (info p.1).method ≠ .get
  /-- Every write made is accounted for. -/
  settled : ∀ r w, Event.write r w ∈ es → Settled info s (r, w) (s.phase r)

omit [DecidableEq R] in
theorem Inv.initial : Inv info [] (State.initial R W) where
  keys := fun _ _ h => absurd h (by simp [State.initial, Phase.inFlight])
  owner := fun _ _ h => absurd h (by simp [State.initial])
  committed := fun _ h => absurd h (by simp [State.initial])
  settled := fun _ _ h => absurd h (by simp)

section Move

variable {info} {es : List (Event R W)} {s : State R W} {r : R}

omit [DecidableEq R] in
/-- Under the invariant the session of a request holds writes of that request alone. -/
theorem Inv.session_own (hI : Inv info es s)
    (h_fresh : (s.phase r).inFlight ∨
      ∀ r', (s.phase r').inFlight → (info r').traceId ≠ (info r).traceId)
    {p : R × W} (hp : p ∈ s.session info r) : p.1 = r ∧ (s.phase r).inFlight := by
  obtain ⟨hfl, hkey⟩ := hI.owner _ p hp
  rcases h_fresh with h | h
  · exact ⟨hI.keys _ _ hfl h hkey, h⟩
  · exact absurd hkey (h _ hfl)

theorem phase_move_self (ph : Phase) (session published : List (R × W)) :
    (s.move info r ph session published).phase r = ph :=
  Function.update_self ..

theorem phase_move_of_ne {r' : R} (hne : r' ≠ r) (ph : Phase) (session published : List (R × W)) :
    (s.move info r ph session published).phase r' = s.phase r' :=
  Function.update_of_ne hne ..

omit [DecidableEq R] in
/-- The other requests in flight have other trace ids. -/
theorem Inv.apart (hI : Inv info es s)
    (h_fresh : (s.phase r).inFlight ∨
      ∀ r', (s.phase r').inFlight → (info r').traceId ≠ (info r).traceId)
    {r' : R} (hne : r' ≠ r) (hfl : (s.phase r').inFlight) :
    (info r').traceId ≠ (info r).traceId := by
  intro hkey
  rcases h_fresh with h | h
  · exact hne (hI.keys _ _ hfl h hkey)
  · exact h r' hfl hkey

/-- A move under another trace id leaves a write where it is. -/
theorem Settled.move {r' : R} {w : W} (h : Settled info s (r', w) (s.phase r'))
    (h_apart : (s.phase r').inFlight → (info r').traceId ≠ (info r).traceId) (ph : Phase)
    (session published : List (R × W)) :
    Settled info (s.move info r ph session published) (r', w) (s.phase r') := by
  -- a pending write stays under its trace id
  have h_keep : (s.phase r').inFlight → (r', w) ∈ s.session info r' →
      (r', w) ∈ (s.move info r ph session published).session info r' := by
    intro hfl hmem
    show (r', w) ∈ Function.update s.registry (info r).traceId session (info r').traceId
    rw [Function.update_of_ne (h_apart hfl)]
    exact hmem
  cases hph : s.phase r' with
  | waiting => rw [hph] at h; exact h
  | running => rw [hph] at h h_keep; exact h_keep trivial h
  | returned => rw [hph] at h h_keep; exact h_keep trivial h
  | raised e' => trivial
  | closing ok =>
    -- and a committed write stays committed
    rw [hph] at h
    exact fun hok hget => List.mem_append_left _ (h hok hget)
  | finished ok =>
    rw [hph] at h
    exact fun hok hget => List.mem_append_left _ (h hok hget)

/-- **The invariant survives a move** that leaves in the session, and publishes, writes of
the moving request only, and settles all of them. -/
theorem Inv.move (hI : Inv info es s) {e : Event R W} {ph : Phase}
    {session published : List (R × W)}
    (h_fresh : (s.phase r).inFlight ∨
      ∀ r', (s.phase r').inFlight → (info r').traceId ≠ (info r).traceId)
    (h_from : ¬ (s.phase r).published ∨ ph.published)
    (h_session : ∀ p ∈ session, p.1 = r ∧ ph.inFlight)
    (h_published : ∀ p ∈ published, p.1 = r ∧ ph.published ∧ (info r).method ≠ .get)
    (h_other : ∀ r' w, r' ≠ r → Event.write r' w ≠ e)
    (h_settled : ∀ w, Event.write r w ∈ es ++ [e] →
      Settled info (s.move info r ph session published) (r, w) ph) :
    Inv info (es ++ [e]) (s.move info r ph session published) := by
  -- away from `r` and its trace id the state is as before
  have h_phase : ∀ r', r' ≠ r → (s.move info r ph session published).phase r' = s.phase r' :=
    fun r' hne => phase_move_of_ne hne ph session published
  have h_self : (s.move info r ph session published).phase r = ph :=
    phase_move_self ph session published
  refine ⟨?_, ?_, ?_, ?_⟩
  · -- the trace ids of requests in flight stay distinct
    intro r₁ r₂ h₁ h₂ hkey
    by_cases e₁ : r₁ = r
    · by_cases e₂ : r₂ = r
      · rw [e₁, e₂]
      · rw [h_phase r₂ e₂] at h₂
        exact absurd (e₁ ▸ hkey.symm) (hI.apart h_fresh e₂ h₂)
    · rw [h_phase r₁ e₁] at h₁
      by_cases e₂ : r₂ = r
      · exact absurd (e₂ ▸ hkey) (hI.apart h_fresh e₁ h₁)
      · rw [h_phase r₂ e₂] at h₂
        exact hI.keys _ _ h₁ h₂ hkey
  · -- pending writes: under the trace id of `r` those it leaves, elsewhere those from before
    intro k p hp
    by_cases hk : k = (info r).traceId
    · subst hk
      rw [show (s.move info r ph session published).registry (info r).traceId = session from
        Function.update_self ..] at hp
      obtain ⟨hpr, hfl⟩ := h_session p hp
      rw [hpr, h_self]
      exact ⟨hfl, rfl⟩
    · rw [show (s.move info r ph session published).registry k = s.registry k from
        Function.update_of_ne hk _ _] at hp
      obtain ⟨hfl, hkey⟩ := hI.owner k p hp
      have hne : p.1 ≠ r := fun h => hk (by rw [← hkey, h])
      rw [h_phase _ hne]
      exact ⟨hfl, hkey⟩
  · -- committed writes: those from before and those published
    intro p hp
    rcases List.mem_append.mp hp with hp | hp
    · obtain ⟨hpub, hget⟩ := hI.committed p hp
      by_cases hpr : p.1 = r
      · rw [hpr, h_self]
        rw [hpr] at hpub hget
        exact ⟨h_from.resolve_left fun h => h hpub, hget⟩
      · rw [h_phase _ hpr]
        exact ⟨hpub, hget⟩
    · obtain ⟨hpr, hpub, hget⟩ := h_published p hp
      rw [hpr, h_self]
      exact ⟨hpub, hget⟩
  · -- the writes made, of `r` and of the others
    intro r' w hw
    by_cases hr : r' = r
    · subst hr
      rw [h_self]
      exact h_settled w hw
    · have hold : Event.write r' w ∈ es := by
        rcases List.mem_append.mp hw with h | h
        · exact h
        · exact absurd (List.mem_singleton.mp h) (h_other r' w hr)
      rw [h_phase r' hr]
      exact (hI.settled r' w hold).move (hI.apart h_fresh hr) ph session published

/-! One lemma for each action. -/

theorem Phase.not_published {ph : Phase} (h_closing : ∀ ok, ph ≠ .closing ok)
    (h_finished : ∀ ok, ph ≠ .finished ok) : ¬ ph.published := by
  rintro (h | h)
  · exact h_closing true h
  · exact h_finished true h

omit [DecidableEq R] in
/-- A write seen after an event that is not one was made before it. -/
theorem Inv.settled_before (hI : Inv info es s) {e : Event R W} {w : W}
    (h_ne : ∀ r' w', e ≠ .write r' w') (hw : Event.write r w ∈ es ++ [e]) :
    Settled info s (r, w) (s.phase r) := by
  rcases List.mem_append.mp hw with hw | hw
  · exact hI.settled r w hw
  · exact absurd (List.mem_singleton.mp hw).symm (h_ne r w)

omit [DecidableEq R] in
/-- The session of a request in flight is its own. -/
theorem Inv.own (hI : Inv info es s) (hfl : (s.phase r).inFlight) {p : R × W}
    (hp : p ∈ s.session info r) : p.1 = r :=
  (hI.session_own (.inl hfl) hp).1

theorem Inv.setTraceId (hI : Inv info es s) (hph : s.phase r = .waiting)
    (h_fresh : FreshTraceId info s (.setTraceId r)) :
    Inv info (es ++ [.setTraceId r]) (s.move info r .running (s.session info r) []) := by
  refine hI.move (.inr h_fresh) (.inl ?_) ?_ (List.forall_mem_nil _) (fun _ _ _ => nofun) ?_
  · rw [hph]
    exact Phase.not_published nofun nofun
  · -- no request in flight has this trace id, so the session is empty
    intro p hp
    have hfl := (hI.session_own (.inr h_fresh) hp).2
    rw [hph] at hfl
    exact hfl.elim
  · intro w hw
    have hset := hI.settled_before (fun _ _ h => by cases h) hw
    rw [hph] at hset
    exact hset.elim

theorem Inv.write (hI : Inv info es s) (hph : s.phase r = .running) (w : W) :
    Inv info (es ++ [.write r w])
      (s.move info r .running (s.session info r ++ [(r, w)]) []) := by
  have hfl : (s.phase r).inFlight := by rw [hph]; trivial
  refine hI.move (.inl hfl) (.inl ?_) ?_ (List.forall_mem_nil _) ?_ ?_
  · rw [hph]
    exact Phase.not_published nofun nofun
  · -- what is pending under its trace id is its own, since it is in flight
    intro p hp
    rcases List.mem_append.mp hp with hp | hp
    · exact ⟨hI.own hfl hp, trivial⟩
    · rw [List.mem_singleton.mp hp]
      exact ⟨rfl, trivial⟩
  · intro r' w' hne heq
    cases heq
    exact hne rfl
  · -- the new write joins those pending
    intro w' hw'
    show (r, w') ∈ Function.update s.registry (info r).traceId _ (info r).traceId
    rw [Function.update_self]
    rcases List.mem_append.mp hw' with hw' | hw'
    · have hset := hI.settled r w' hw'
      rw [hph] at hset
      exact List.mem_append_left _ hset
    · cases List.mem_singleton.mp hw'
      exact List.mem_append_right _ (List.mem_singleton.mpr rfl)

theorem Inv.returns (hI : Inv info es s) (hph : s.phase r = .running) :
    Inv info (es ++ [.returns r]) (s.move info r .returned (s.session info r) []) := by
  have hfl : (s.phase r).inFlight := by rw [hph]; trivial
  refine hI.move (.inl hfl) (.inl ?_) (fun p hp => ⟨hI.own hfl hp, trivial⟩)
    (List.forall_mem_nil _) (fun _ _ _ => nofun) ?_
  · rw [hph]
    exact Phase.not_published nofun nofun
  · -- what was pending stays pending
    intro w hw
    have hset := hI.settled_before (fun _ _ h => by cases h) hw
    rw [hph] at hset
    show (r, w) ∈ Function.update s.registry (info r).traceId _ (info r).traceId
    rw [Function.update_self]
    exact hset

/-- An exception, in the handler or at the commit: the writes of the request are given up,
whether they are still in the session or not. -/
theorem Inv.fails (hI : Inv info es s) (hph : s.phase r = .running ∨ s.phase r = .returned)
    {e : Event R W} (h_ne : ∀ r' w', Event.write r' w' ≠ e) (ex : PyExc)
    {session : List (R × W)} (h_session : session ⊆ s.session info r) :
    Inv info (es ++ [e]) (s.move info r (.raised ex) session []) := by
  have hfl : (s.phase r).inFlight := by rcases hph with h | h <;> rw [h] <;> trivial
  refine hI.move (.inl hfl) (.inl ?_) (fun p hp => ⟨hI.own hfl (h_session hp), trivial⟩)
    (List.forall_mem_nil _) (fun r' w _ => h_ne r' w) (fun _ _ => trivial)
  rcases hph with h | h <;> rw [h] <;> exact Phase.not_published nofun nofun

theorem Inv.commit (hI : Inv info es s) (hph : s.phase r = .returned)
    (h_method : (info r).method ≠ .get) :
    Inv info (es ++ [.commit r]) (s.move info r (.closing true) [] (s.session info r)) := by
  have hfl : (s.phase r).inFlight := by rw [hph]; trivial
  refine hI.move (.inl hfl) (.inr (.inl rfl)) (List.forall_mem_nil _)
    (fun p hp => ⟨hI.own hfl hp, .inl rfl, h_method⟩) (fun _ _ _ => nofun) ?_
  -- what was pending is published
  intro w hw _ _
  have hset := hI.settled_before (fun _ _ h => by cases h) hw
  rw [hph] at hset
  exact List.mem_append_right _ hset

theorem Inv.skipCommit (hI : Inv info es s) (hph : s.phase r = .returned)
    (h_method : (info r).method = .get) :
    Inv info (es ++ [.skipCommit r])
      (s.move info r (.closing true) (s.session info r) []) := by
  have hfl : (s.phase r).inFlight := by rw [hph]; trivial
  refine hI.move (.inl hfl) (.inr (.inl rfl)) (fun p hp => ⟨hI.own hfl hp, trivial⟩)
    (List.forall_mem_nil _) (fun _ _ _ => nofun) ?_
  exact fun w _ _ hne => absurd h_method hne

/-- Rolled back or not, a request that raised publishes nothing. -/
theorem Inv.handleError (hI : Inv info es s) {ex : PyExc} (hph : s.phase r = .raised ex)
    {session : List (R × W)} (h_session : session ⊆ s.session info r) :
    Inv info (es ++ [.handleError r]) (s.move info r (.closing false) session []) := by
  have hfl : (s.phase r).inFlight := by rw [hph]; trivial
  refine hI.move (.inl hfl) (.inl ?_) (fun p hp => ⟨hI.own hfl (h_session hp), trivial⟩)
    (List.forall_mem_nil _) (fun _ _ _ => nofun) (fun _ _ => by rintro ⟨⟩)
  rw [hph]
  exact Phase.not_published nofun nofun

theorem Inv.remove (hI : Inv info es s) {ok : Bool} (hph : s.phase r = .closing ok) :
    Inv info (es ++ [.remove r]) (s.move info r (.finished ok) [] []) := by
  have hfl : (s.phase r).inFlight := by rw [hph]; trivial
  refine hI.move (.inl hfl) ?_ (List.forall_mem_nil _) (List.forall_mem_nil _)
    (fun _ _ _ => nofun) ?_
  · rw [hph]
    by_cases hok : ok = true
    · exact .inr (.inr (by rw [hok]))
    · refine .inl ?_
      rintro (h | h)
      · exact hok (Phase.closing.inj h)
      · cases h
  · -- its writes were committed before it began to close
    intro w hw hok hget
    have hset := hI.settled_before (fun _ _ h => by cases h) hw
    rw [hph] at hset
    exact List.mem_append_left _ (hset hok hget)

end Move

/-- **Every step with a fresh trace id keeps the invariant.** -/
theorem Inv.step {es : List (Event R W)} {s s' : State R W} {e : Event R W}
    (hI : Inv info es s) (h_fresh : FreshTraceId info s e) (h : Steps info s e s') :
    Inv info (es ++ [e]) s' := by
  unfold Steps ScopedSession.step at h
  -- each action is possible in one phase of its request
  cases e with
  | setTraceId r =>
    cases hph : s.phase r <;> simp only [hph, Option.some.injEq, reduceCtorEq] at h
    case waiting => exact h ▸ hI.setTraceId hph h_fresh
  | write r w =>
    cases hph : s.phase r <;> simp only [hph, Option.some.injEq, reduceCtorEq] at h
    case running => exact h ▸ hI.write hph w
  | returns r =>
    cases hph : s.phase r <;> simp only [hph, Option.some.injEq, reduceCtorEq] at h
    case running => exact h ▸ hI.returns hph
  | raises r ex =>
    cases hph : s.phase r <;> simp only [hph, Option.some.injEq, reduceCtorEq] at h
    case running =>
      exact h ▸ hI.fails (.inl hph) (fun _ _ h => by cases h) ex (List.Subset.refl _)
  | commit r =>
    cases hph : s.phase r <;> simp only [hph, reduceCtorEq] at h
    case returned =>
      split at h
      case isFalse => cases h
      case isTrue hget => exact Option.some.inj h ▸ hI.commit hph hget
  | commitFails r ex =>
    cases hph : s.phase r <;> simp only [hph, reduceCtorEq] at h
    case returned =>
      split at h
      case isFalse => cases h
      case isTrue =>
        exact Option.some.inj h ▸
          hI.fails (.inr hph) (fun _ _ h => by cases h) ex (List.nil_subset _)
  | skipCommit r =>
    cases hph : s.phase r <;> simp only [hph, reduceCtorEq] at h
    case returned =>
      split at h
      case isFalse => cases h
      case isTrue hget => exact Option.some.inj h ▸ hI.skipCommit hph hget
  | handleError r =>
    cases hph : s.phase r <;> simp only [hph, reduceCtorEq] at h
    case raised ex =>
      split at h
      case isTrue => exact Option.some.inj h ▸ hI.handleError hph (List.nil_subset _)
      case isFalse => exact Option.some.inj h ▸ hI.handleError hph (List.Subset.refl _)
  | remove r =>
    cases hph : s.phase r <;> simp only [hph, Option.some.injEq, reduceCtorEq] at h
    case closing ok => exact h ▸ hI.remove hph

/-! ### Isolation -/

omit [DecidableEq R] in
/-- The invariant at the end of a request is what a transaction per request promises. -/
theorem Inv.isolated {es : List (Event R W)} {s : State R W} (hI : Inv info es s) :
    Isolated info es s := by
  intro r ok hph w hw
  refine ⟨?_, ?_⟩
  · -- a committed write is of a request that has published, so has returned
    intro hmem
    obtain ⟨hpub, hget⟩ := hI.committed _ hmem
    refine ⟨hget, ?_⟩
    change (s.phase r).published at hpub
    rw [hph] at hpub
    rcases hpub with h | h
    · cases h
    · exact Phase.finished.inj h
  · rintro ⟨hget, hok⟩
    have hset := hI.settled r w hw
    rw [hph] at hset
    exact hset hok hget

/-- **Requests with trace ids of their own do not share a transaction.** In every run in
which a trace id is set only while no request in flight has it, whatever the interleaving,
the writes of each finished request are committed exactly when it is not a GET and ended
without an exception. -/
theorem isolated_of_fresh_trace_ids {es : List (Event R W)} {s : State R W}
    (h : Run (guarded (FreshTraceId info) (Steps info)) (State.initial R W) es s) :
    Isolated info es s :=
  (h.history (I := Inv info) (Inv.initial info)
    fun _ _ _ _ hI hs => hI.step info hs.1 hs.2).isolated

/-- Three POST requests: the first and the last have one value of the header, and the other has
none. It is in flight the whole time and commits, while the first raises and gives the value up to
the last, which commits. -/
theorem isolated_of_fresh_trace_ids_interleaved :
    ∃ (info : Fin 3 → RequestInfo) (es : List (Event (Fin 3) Nat)) (s : State (Fin 3) Nat),
      es = [.setTraceId 0, .setTraceId 1, .write 0 7, .write 1 9, .returns 1, .commit 1,
        .raises 0 .typeError, .handleError 0, .remove 0, .setTraceId 2, .write 2 8, .returns 2,
        .commit 2, .remove 1, .remove 2] ∧
      (info 0).traceId = (info 2).traceId ∧
      Run (guarded (FreshTraceId info) (Steps info)) (State.initial (Fin 3) Nat) es s ∧
      s.phase 0 = .finished false ∧ s.phase 1 = .finished true ∧ s.phase 2 = .finished true ∧
      s.committed = [(1, 9), (2, 8)] ∧ Isolated info es s := by
  let info : Fin 3 → RequestInfo := fun r => ⟨.post, if r = 1 then none else some "x", "u"⟩
  let es : List (Event (Fin 3) Nat) := [.setTraceId 0, .setTraceId 1, .write 0 7, .write 1 9,
    .returns 1, .commit 1, .raises 0 .typeError, .handleError 0, .remove 0, .setTraceId 2,
    .write 2 8, .returns 2, .commit 2, .remove 1, .remove 2]
  obtain ⟨s, hrun, hends⟩ : ∃ s : State (Fin 3) Nat,
      Run (guarded (FreshTraceId info) (Steps info)) (State.initial (Fin 3) Nat) es s ∧
      s.phase 0 = .finished false ∧ s.phase 1 = .finished true ∧ s.phase 2 = .finished true ∧
      s.committed = [(1, 9), (2, 8)] := by
    refine ⟨_, .cons ⟨fun _ h => h.elim, rfl⟩ (.cons ⟨?_, rfl⟩ (.cons ⟨trivial, rfl⟩
      (.cons ⟨trivial, rfl⟩ (.cons ⟨trivial, rfl⟩ (.cons ⟨trivial, rfl⟩ (.cons ⟨trivial, rfl⟩
      (.cons ⟨trivial, rfl⟩ (.cons ⟨trivial, rfl⟩ (.cons ⟨?_, rfl⟩ (.cons ⟨trivial, rfl⟩
      (.cons ⟨trivial, rfl⟩ (.cons ⟨trivial, rfl⟩ (.cons ⟨trivial, rfl⟩ (.cons ⟨trivial, rfl⟩
      (.nil _))))))))))))))), rfl, rfl, rfl, rfl⟩
    · -- request 0 is in flight
      intro r hr
      match r with
      | 0 => decide
      | 1 => exact hr.elim
      | 2 => exact hr.elim
    · -- request 0 has finished, and request 1 is in flight
      intro r hr
      match r with
      | 0 => exact hr.elim
      | 1 => decide
      | 2 => exact hr.elim
  obtain ⟨h₀, h₁, h₂, hcommitted⟩ := hends
  exact ⟨info, es, s, rfl, rfl, hrun, h₀, h₁, h₂, hcommitted,
    isolated_of_fresh_trace_ids info hrun⟩

/-- Two POST requests with one value of the header: the second commits what the first has
written, and the first ends with an exception. -/
theorem shared_trace_id_not_isolated :
    ∃ (info : Bool → RequestInfo) (es : List (Event Bool Nat)) (s : State Bool Nat),
      Run (Steps info) (State.initial Bool Nat) es s ∧
      (∀ r, ∃ ok, s.phase r = .finished ok) ∧ ¬ Isolated info es s := by
  refine ⟨fun _ => ⟨.post, some "x", "u"⟩,
    [.setTraceId false, .setTraceId true, .write false 7, .returns true, .commit true,
      .raises false .typeError, .handleError false, .remove false, .remove true],
    _, run_of_exec rfl, ?_, ?_⟩
  · intro r
    cases r
    · exact ⟨false, rfl⟩
    · exact ⟨true, rfl⟩
  · intro h
    -- the write of the request that raised is committed
    have hiff := h false false rfl 7 (by decide)
    exact absurd (hiff.mp (by decide)).2 (by decide)

end ScopedSession

end Storefront
