import ArchiveCatalog.Lifecycle.Waiters
import ArchiveCatalog.Proofs.LostReplies

/-! A call is a program, and every request of it may be answered in any way. What a call can do is
said once, as its effect; the rest is induction over the life of a catalog. -/

namespace ArchiveCatalog.Sql

/-- A request and the response to it. -/
structure Exchange where
  request : Request
  response : request.Response

/-- A program makes these requests, is answered in this way, and ends with a value. -/
inductive Converses : Program α → List Exchange → α → Prop where
  | done (value : α) : Converses (.done value) [] value
  | ask {request : Request} {next : request.Response → Program α} {rest : List Exchange} {value : α}
      (response : request.Response) (later : Converses (next response) rest value) :
      Converses (.ask request next) (⟨request, response⟩ :: rest) value

/-- Whoever answers, and on whatever the answers depend, a program has a conversation. -/
theorem Converses.of_run (answer : σ → (request : Request) → request.Response × σ) (state : σ)
    (program : Program α) :
    ∃ exchanges, Converses program exchanges (program.run answer state).1 := by
  induction program generalizing state with
  | done value => exact ⟨[], .done value⟩
  | ask request next ih =>
    obtain ⟨rest, later⟩ := ih (answer state request).1 (answer state request).2
    exact ⟨⟨request, (answer state request).1⟩ :: rest, .ask _ later⟩

theorem Converses.of_bind {program : Program α} {next : α → Program β} {exchanges : List Exchange}
    {value : β} (conversation : Converses (program.bind next) exchanges value) :
    ∃ first middle rest, exchanges = first ++ rest ∧ Converses program first middle ∧
      Converses (next middle) rest value := by
  induction program generalizing exchanges with
  | done middle => exact ⟨[], middle, exchanges, rfl, .done middle, conversation⟩
  | ask request following ih =>
    cases conversation with
    | ask response later =>
      obtain ⟨first, middle, rest, rfl, begun, ended⟩ := ih response later
      exact ⟨⟨request, response⟩ :: first, middle, rest, rfl, .ask response begun, ended⟩

def Request.isStatement : Request → Bool
  | .query _ => true
  | .script _ => true
  | _ => false

def Silent (exchanges : List Exchange) : Prop :=
  ∀ exchange ∈ exchanges, exchange.request.isStatement = false

/-- No statement is sent but the query of the installed version. -/
def AsksVersion (exchanges : List Exchange) : Prop :=
  ∀ exchange ∈ exchanges, exchange.request.isStatement = true →
    exchange.request = .query .schemaVersions

/-- The server answers that just that version of the schema is installed that is needed. -/
def FindsVersion (exchanges : List Exchange) : Prop :=
  ∃ reply, (⟨.query .schemaVersions, .ok reply⟩ : Exchange) ∈ exchanges ∧
    versionOf reply = .ok (some schemaVersion)

theorem AsksVersion.append {first rest : List Exchange} (before : AsksVersion first)
    (after : AsksVersion rest) : AsksVersion (first ++ rest) := by
  intro exchange member
  rcases List.mem_append.1 member with early | late
  · exact before exchange early
  · exact after exchange late

private theorem findsVersion_append (first rest : List Exchange) :
    FindsVersion (first ++ rest) ↔ FindsVersion first ∨ FindsVersion rest := by
  simp only [FindsVersion, List.mem_append, or_and_right, exists_or]

/-- A conversation on the installed version, and what comes of it. -/
structure Looks {ε : Type} (exchanges : List Exchange) (result : Except ε (Option Int32)) :
    Prop where
  asks : AsksVersion exchanges
  finds : FindsVersion exchanges ↔ result = .ok (some schemaVersion)

private theorem Looks.of_installedVersion {exchanges : List Exchange}
    {result : Except AttemptError (Option Int32)}
    (conversation : Converses installedVersion exchanges result) : Looks exchanges result := by
  cases conversation with
  | ask acquired later =>
    cases acquired with
    | error error =>
      cases later
      exact ⟨by simp [AsksVersion, Request.isStatement], by simp [FindsVersion]⟩
    | ok _ =>
      cases later with
      | @ask _ _ rest _ response later =>
        have asks : AsksVersion [⟨.acquire, .ok ()⟩, ⟨.query .schemaVersions, response⟩] := by
          simp [AsksVersion, Request.isStatement]
        cases response with
        | ok reply =>
          cases later
          exact ⟨asks, by simp [FindsVersion]⟩
        | error error =>
          have nothing : rest = [] ∧ result ≠ .ok (some schemaVersion) := by
            cases error with
            | refused code text constraint =>
              by_cases missing : code = undefinedTable
              · simp only [if_pos missing] at later
                cases later
                exact ⟨rfl, by simp⟩
              · simp only [if_neg missing] at later
                cases later
                exact ⟨rfl, by simp⟩
            | _ =>
              cases later
              exact ⟨rfl, by simp⟩
          obtain ⟨rfl, unread⟩ := nothing
          exact ⟨asks, by simp [FindsVersion, unread]⟩

theorem Looks.append {ε ε' : Type} {first rest : List Exchange} {error : ε}
    {result : Except ε' (Option Int32)} (before : Looks first (.error error : Except ε _))
    (after : Looks rest result) : Looks (first ++ rest) result where
  asks := before.asks.append after.asks
  finds := by simp [findsVersion_append, before.finds, after.finds]

private theorem Looks.of_nothing {ε : Type} (error : ε) : Looks [] (.error error) :=
  ⟨by simp [AsksVersion], by simp [FindsVersion]⟩

private theorem Looks.of_conclude {operation : String}
    {onTransient : AttemptError → Program (Outcome (Option Int32))} {first rest : List Exchange}
    {result : Except AttemptError (Option Int32)} {outcome : Outcome (Option Int32)}
    (before : Looks first result)
    (conversation : Converses (conclude operation onTransient result) rest outcome)
    (again : ∀ error, Converses (onTransient error) rest outcome → Looks rest outcome) :
    Looks (first ++ rest) outcome := by
  cases result with
  | ok found =>
    cases conversation
    rw [List.append_nil]
    exact ⟨before.asks, by simp [before.finds]⟩
  | error error =>
    refine before.append ?_
    rw [conclude] at conversation
    split at conversation
    · exact again error conversation
    · cases conversation
      exact .of_nothing _

/-- However often the version is asked for, it is found if the server once answers it. -/
theorem Looks.of_retryFrom {operation : String} {delay : Duration} {retries number : Nat}
    {exchanges : List Exchange} {outcome : Outcome (Option Int32)}
    (conversation : Converses
      (retryFrom operation delay (fun _ => installedVersion) number retries) exchanges outcome) :
    Looks exchanges outcome := by
  -- each attempt only looks at the version, and the pauses between them show nothing
  induction retries generalizing number exchanges with
  | zero =>
    obtain ⟨first, result, rest, rfl, attempted, ended⟩ := conversation.of_bind
    refine (Looks.of_installedVersion attempted).of_conclude ended fun error refused => ?_
    obtain ⟨failure, failed⟩ : ∃ failure, exhausted operation number error = .error failure := by
      unfold exhausted
      split <;> exact ⟨_, rfl⟩
    rw [failed] at refused
    cases refused
    exact .of_nothing _
  | succ retries ih =>
    obtain ⟨first, result, rest, rfl, attempted, ended⟩ := conversation.of_bind
    refine (Looks.of_installedVersion attempted).of_conclude ended fun error paused => ?_
    cases paused with
    | @ask _ _ later _ response repeated =>
      have pause : Looks [⟨.pause delay, response⟩] (.error error) :=
        ⟨by simp [AsksVersion, Request.isStatement], by simp [FindsVersion]⟩
      exact pause.append (ih repeated)

/-- The check of a new catalog succeeds if and only if the server answers the version that is
needed. -/
theorem check_converses {catalog : Sql} {exchanges : List Exchange} {outcome : Outcome Unit}
    (fresh : catalog.state = .constructed)
    (conversation : Converses catalog.check exchanges outcome) :
    AsksVersion exchanges ∧ (FindsVersion exchanges ↔ outcome = .ok ()) := by
  rw [check, if_pos fresh] at conversation
  obtain ⟨first, result, rest, rfl, looked, ended⟩ := conversation.of_bind
  have looks := Looks.of_retryFrom looked
  cases result with
  | error failure =>
    cases ended
    rw [List.append_nil]
    exact ⟨looks.asks, by simp [looks.finds]⟩
  | ok found =>
    cases ended
    rw [List.append_nil]
    refine ⟨looks.asks, ?_⟩
    by_cases same : found = some schemaVersion <;>
      simp [looks.finds, checkVersion, Outcome.refuse, same]

inductive CatalogCall where
  | init
  | start
  | stop
  | state
  | waitReady (timeout : Duration)
  | setDataStore (store : DataStore)
  | health
  | operate (operation : Operation)

namespace CatalogCall

/-- What a call answers. -/
@[reducible] def Answer : CatalogCall → Type
  | .init => Outcome Unit
  | .start => Outcome Unit
  | .stop => Outcome Unit
  | .state => State
  | .waitReady _ => Except LifecycleError Unit
  | .setDataStore _ => Unit
  | .health => HealthCheck
  | .operate operation => Outcome operation.Answer

/-- What a catalog does when it is called: the program that gives the answer and the catalog
after it. -/
def program (before : Sql) : (call : CatalogCall) → Program (call.Answer × Sql)
  | .init => before.init
  | .start => before.start
  | .stop => before.stop
  | .state => .done (before.state, before)
  | .waitReady timeout => .done ((Waiters.start.wait before.state timeout).1, before)
  | .setDataStore store => .done ((), before.setDataStore store)
  | .health => before.health.bind fun check => .done (check, before)
  | .operate operation => (before.run operation).bind fun answer => .done (answer, before)

/-- The state to which a new catalog gets by a call that checks the schema. -/
def goal? : CatalogCall → Option State
  | .init => some .initialized
  | .start => some .ready
  | _ => none

def Succeeds : (call : CatalogCall) → call.Answer → Prop
  | .init, answer => answer = .ok ()
  | .start, answer => answer = .ok ()
  | .stop, answer => answer = .ok ()
  | .waitReady _, answer => answer = .ok ()
  | .operate _, answer => answer.isOk = true
  | _, _ => True

end CatalogCall

/-- What a call can do to a catalog, and what it then sends. -/
inductive Effect (before : Sql) (call : CatalogCall) (exchanges : List Exchange)
    (succeeds : Prop) (after : Sql) : Prop where
  /-- The check of the schema succeeds. -/
  | checked (goal : State) (called : call.goal? = some goal) (fresh : before.state = .constructed)
      (asks : AsksVersion exchanges) (finds : FindsVersion exchanges) (success : succeeds)
      (moves : after = { before with state := goal })
  /-- The check of the schema fails. -/
  | rejected (called : call.goal? ≠ none) (fresh : before.state = .constructed)
      (asks : AsksVersion exchanges) (misses : ¬FindsVersion exchanges) (failure : ¬succeeds)
      (keeps : after = before)
  | stopped (called : call = .stop) (silent : Silent exchanges) (stops : after.state = .stopped)
  /-- A ready catalog may send anything. -/
  | served (called : call.goal? = none) (ready : before.state = .ready) (keeps : after = before)
  /-- Nothing is asked. -/
  | idle (late : call.goal? ≠ none → before.state ≠ .constructed) (nothing : exchanges = [])
      (moves : after.state = before.state ∨ before.state = .initialized ∧ after.state = .ready)

section Effects

variable {before after : Sql} {exchanges : List Exchange}

private theorem effect_init {answer : Outcome Unit}
    (conversation : Converses before.init exchanges (answer, after)) :
    Effect before .init exchanges (answer = .ok ()) after := by
  obtain ⟨first, checked, rest, rfl, begun, ended⟩ := conversation.of_bind
  by_cases fresh : before.state = .constructed
  · obtain ⟨asks, finds⟩ := check_converses fresh begun
    cases checked with
    | ok _ =>
      simp only [moveTo, State.settle, State.toInitialized, State.advance, fresh] at ended
      cases ended
      rw [List.append_nil]
      exact .checked .initialized rfl fresh asks (finds.2 rfl) rfl rfl
    | error failure =>
      cases ended
      rw [List.append_nil]
      exact .rejected (by decide) fresh asks (by simp [finds]) (by simp) rfl
  · rw [check, if_neg fresh] at begun
    cases begun
    cases ended
    refine .idle (fun _ => fresh) rfl (.inl ?_)
    change (before.state.settle before.state.toInitialized).2 = before.state
    cases state : before.state with
    | constructed => exact absurd state fresh
    | _ => rfl

private theorem effect_start {answer : Outcome Unit}
    (conversation : Converses before.start exchanges (answer, after)) :
    Effect before .start exchanges (answer = .ok ()) after := by
  rw [start] at conversation
  -- a new catalog is initialized first; any other one sends nothing and only moves
  by_cases fresh : before.state = .constructed
  · rw [if_pos fresh] at conversation
    obtain ⟨first, ⟨initialized, middle⟩, rest, rfl, begun, ended⟩ := conversation.of_bind
    cases effect_init begun with
    | checked goal called _ asks finds success moves =>
      cases called
      subst success moves
      simp only [moveTo, State.settle, State.toReady, State.advance] at ended
      cases ended
      rw [List.append_nil]
      exact .checked .ready rfl fresh asks finds rfl rfl
    | rejected _ _ asks misses failure keeps =>
      cases initialized with
      | ok _ => exact absurd rfl failure
      | error reason =>
        cases ended
        rw [List.append_nil]
        exact .rejected (by decide) fresh asks misses (by simp) keeps
    | stopped called => cases called
    | served called => cases called
    | idle late => exact absurd fresh (late (by decide))
  · rw [if_neg fresh] at conversation
    cases conversation
    refine .idle (fun _ => fresh) rfl ?_
    change (before.state.settle before.state.toReady).2 = before.state ∨
      before.state = .initialized ∧ (before.state.settle before.state.toReady).2 = .ready
    cases state : before.state with
    | constructed => exact absurd state fresh
    | initialized => exact .inr ⟨rfl, rfl⟩
    | _ => exact .inl rfl

theorem silent_of_stop {answer : Outcome Unit}
    (conversation : Converses before.stop exchanges (answer, after)) :
    Silent exchanges ∧ after.state = .stopped := by
  cases conversation with
  | ask closed later =>
    cases later
    exact ⟨by simp [Silent, Request.isStatement], rfl⟩

/-- A call that only uses a catalog asks something only while it is ready. -/
theorem effect_use {call : CatalogCall} {program : Program α} {answer : α} {succeeds : Prop}
    (called : call.goal? = none) (unready : before.state ≠ .ready → ∃ value, program = .done value)
    (conversation : Converses (program.bind fun value => .done (value, before)) exchanges
      (answer, after)) :
    Effect before call exchanges succeeds after := by
  obtain ⟨first, value, rest, rfl, used, ended⟩ := conversation.of_bind
  cases ended
  by_cases ready : before.state = .ready
  · exact .served called ready rfl
  · obtain ⟨value, rfl⟩ := unready ready
    cases used
    exact .idle (absurd called) rfl (.inl rfl)

/-- Whatever the server answers, a call does one of these things. -/
theorem effect_of_call {call : CatalogCall} {answer : call.Answer}
    (conversation : Converses (call.program before) exchanges (answer, after)) :
    Effect before call exchanges (call.Succeeds answer) after := by
  cases call with
  | init => exact effect_init conversation
  | start => exact effect_start conversation
  | stop =>
    obtain ⟨silent, stops⟩ := silent_of_stop conversation
    exact .stopped rfl silent stops
  | state =>
    cases conversation
    exact .idle (absurd rfl) rfl (.inl rfl)
  | waitReady timeout =>
    cases conversation
    exact .idle (absurd rfl) rfl (.inl rfl)
  | setDataStore store =>
    cases conversation
    exact .idle (absurd rfl) rfl (.inl rfl)
  | health => exact effect_use rfl (fun unready => ⟨_, if_neg unready⟩) conversation
  | operate operation =>
    exact effect_use rfl (fun unready => ⟨_, run_of_unready unready operation⟩) conversation

/-- Behind its schema check a catalog is about to serve, or serves. -/
def Admitted (state : State) : Prop := state = .initialized ∨ state = .ready

variable {call : CatalogCall} {succeeds : Prop}

theorem Effect.admitted (effect : Effect before call exchanges succeeds after)
    (admitted : Admitted after.state) :
    Admitted before.state ∨ (call.goal? ≠ none ∧ FindsVersion exchanges) := by
  cases effect with
  | checked goal called _ _ finds => exact .inr ⟨by simp [called], finds⟩
  | rejected _ _ _ _ _ keeps => exact .inl (keeps ▸ admitted)
  | stopped _ _ stops =>
    rw [stops] at admitted
    rcases admitted with impossible | impossible <;> cases impossible
  | served _ ready => exact .inl (.inr ready)
  | idle _ _ moves =>
    rcases moves with same | ⟨initialized, -⟩
    · exact .inl (same ▸ admitted)
    · exact .inl (.inl initialized)

private theorem Effect.silent_of_stopped (effect : Effect before call exchanges succeeds after)
    (stopped : before.state = .stopped) : Silent exchanges ∧ after.state = .stopped := by
  cases effect with
  | checked _ _ fresh => cases fresh.symm.trans stopped
  | rejected _ fresh => cases fresh.symm.trans stopped
  | stopped _ silent stops => exact ⟨silent, stops⟩
  | served _ ready => cases ready.symm.trans stopped
  | idle _ nothing moves =>
    subst nothing
    rcases moves with same | ⟨initialized, -⟩
    · exact ⟨by simp [Silent], same.trans stopped⟩
    · cases initialized.symm.trans stopped

private theorem Effect.ready_of_statement (effect : Effect before call exchanges succeeds after)
    {exchange : Exchange} (sent : exchange ∈ exchanges)
    (statement : exchange.request.isStatement = true)
    (other : exchange.request ≠ .query .schemaVersions) :
    before.state = .ready ∧ after.state = .ready := by
  cases effect with
  | checked _ _ _ asks => exact absurd (asks exchange sent statement) other
  | rejected _ _ asks => exact absurd (asks exchange sent statement) other
  | stopped _ silent => cases (silent exchange sent).symm.trans statement
  | served _ ready keeps => exact ⟨ready, keeps ▸ ready⟩
  | idle _ nothing =>
    subst nothing
    cases sent

/-- A call that is to check the schema finds the version that is needed, or it fails and changes
nothing, or there is nothing to check any more. -/
theorem Effect.check_cases (effect : Effect before call exchanges succeeds after) {goal : State}
    (called : call.goal? = some goal) :
    (before.state = .constructed ∧ FindsVersion exchanges ∧ succeeds ∧ after.state = goal) ∨
      (before.state = .constructed ∧ ¬FindsVersion exchanges ∧ ¬succeeds ∧ after = before) ∨
      (before.state ≠ .constructed ∧ exchanges = []) := by
  cases effect with
  | checked target reached fresh _ finds success moves =>
    cases called.symm.trans reached
    exact .inl ⟨fresh, finds, success, by rw [moves]⟩
  | rejected _ fresh _ misses failure keeps =>
    exact .inr (.inl ⟨fresh, misses, failure, keeps⟩)
  | stopped stop =>
    subst stop
    cases called
  | served uses => cases called.symm.trans uses
  | idle late nothing => exact .inr (.inr ⟨late (by simp [called]), nothing⟩)

end Effects

/-- A call of a catalog in some state, and what came of it. -/
structure Visit where
  before : Sql
  call : CatalogCall
  exchanges : List Exchange
  answer : call.Answer
  after : Sql

namespace Visit

/-- The catalog does and answers this when it is called, given the responses. -/
def Occurs (visit : Visit) : Prop :=
  Converses (visit.call.program visit.before) visit.exchanges (visit.answer, visit.after)

/-- A check of the schema, to which the server answers the version that is needed. -/
def Confirms (visit : Visit) : Prop :=
  visit.call.goal? ≠ none ∧ FindsVersion visit.exchanges

theorem Occurs.effect {visit : Visit} (occurs : visit.Occurs) :
    Effect visit.before visit.call visit.exchanges (visit.call.Succeeds visit.answer)
      visit.after :=
  effect_of_call occurs

theorem Occurs.silent_of_stop {visit : Visit} (occurs : visit.Occurs) (stop : visit.call = .stop) :
    Silent visit.exchanges ∧ visit.after.state = .stopped := by
  obtain ⟨before, call, exchanges, answer, after⟩ := visit
  cases stop
  exact Sql.silent_of_stop occurs

end Visit

/-- Calls of one catalog in a row, from a first state of it to a last one. -/
inductive Life : Sql → List Visit → Sql → Prop where
  | done (catalog : Sql) : Life catalog [] catalog
  | visit {visit : Visit} {rest : List Visit} {last : Sql} (occurs : visit.Occurs)
      (later : Life visit.after rest last) : Life visit.before (visit :: rest) last

namespace Life

variable {first last : Sql} {visits earlier rest : List Visit} {visit : Visit}

theorem split (life : Life first (earlier ++ rest) last) :
    ∃ middle, Life first earlier middle ∧ Life middle rest last := by
  induction earlier generalizing first with
  | nil => exact ⟨first, .done first, life⟩
  | cons visit earlier ih =>
    cases life with
    | visit occurs later =>
      obtain ⟨middle, begun, ended⟩ := ih later
      exact ⟨middle, .visit occurs begun, ended⟩

/-- A catalog passes its schema check only in a call that the server answers so. -/
theorem confirmed (life : Life first visits last) (admitted : Admitted last.state) :
    Admitted first.state ∨ ∃ past ∈ visits, past.Confirms := by
  induction life with
  | done catalog => exact .inl admitted
  | @visit visit rest last occurs later ih =>
    rcases ih admitted with middle | ⟨past, member, confirms⟩
    · rcases occurs.effect.admitted middle with before | confirms
      · exact .inl before
      · exact .inr ⟨visit, List.mem_cons_self, confirms⟩
    · exact .inr ⟨past, List.mem_cons_of_mem _ member, confirms⟩

theorem stopped (life : Life first visits last)
    (stop : first.state = .stopped ∨ ∃ past ∈ visits, past.call = .stop) :
    last.state = .stopped := by
  induction life with
  | done catalog =>
    rcases stop with stopped | ⟨past, member, -⟩
    · exact stopped
    · cases member
  | @visit visit rest last occurs later ih =>
    rcases stop with stopped | ⟨past, member, stop⟩
    · exact ih (.inl (occurs.effect.silent_of_stopped stopped).2)
    · rcases List.mem_cons.1 member with rfl | member
      · exact ih (.inl (occurs.silent_of_stop stop).2)
      · exact ih (.inr ⟨past, member, stop⟩)

end Life

/-- In the life of a catalog that begins new, whatever the server answers, a statement other than
the query of the version is sent only while the catalog is ready, and then the server has answered
an earlier check with the version that is needed. A check that is not answered so fails and leaves
the catalog new, to be checked again. From the stop on no statement is sent, and the catalog stays
stopped. -/
theorem schema_gate {config : SqlConfig} {earlier later : List Visit} {visit : Visit} {last : Sql}
    (life : Life (.new config) (earlier ++ visit :: later) last) :
    (∀ exchange ∈ visit.exchanges, exchange.request.isStatement = true →
      exchange.request ≠ .query .schemaVersions →
        (visit.before.state = .ready ∧ visit.after.state = .ready) ∧
          ∃ past ∈ earlier, past.Confirms) ∧
    (∀ goal, visit.call.goal? = some goal →
      (visit.before.state = .constructed ∧ FindsVersion visit.exchanges ∧
          visit.call.Succeeds visit.answer ∧ visit.after.state = goal) ∨
        (visit.before.state = .constructed ∧ ¬FindsVersion visit.exchanges ∧
          ¬visit.call.Succeeds visit.answer ∧ visit.after = visit.before) ∨
        (visit.before.state ≠ .constructed ∧ visit.exchanges = [])) ∧
    ((visit.call = .stop ∨ ∃ past ∈ earlier, past.call = .stop) →
      Silent visit.exchanges ∧ visit.after.state = .stopped) := by
  -- what the visit can do is its effect; what came before it has left the catalog as it is
  obtain ⟨_, begun, ended⟩ := life.split
  cases ended with
  | visit occurs _ =>
    have effect := occurs.effect
    refine ⟨?statements, fun goal called => effect.check_cases called, ?stops⟩
    case statements =>
      intro exchange sent statement other
      have ready := effect.ready_of_statement sent statement other
      refine ⟨ready, ?_⟩
      rcases begun.confirmed (.inr ready.1) with impossible | confirmed
      · rcases impossible with impossible | impossible <;> cases impossible
      · exact confirmed
    case stops =>
      rintro (stop | past)
      · exact occurs.silent_of_stop stop
      · exact effect.silent_of_stopped (begun.stopped (.inr past))

/-- A catalog whose first start meets no schema, and whose second one does, serves. -/
theorem schema_gate_of_second_start :
    let config := SqlConfig.default
    let fresh : Sql := .new config
    let ready : Sql := { fresh with state := .ready }
    let asked (reply : Reply) : List Exchange :=
      [⟨.acquire, .ok ()⟩, ⟨.query .schemaVersions, .ok reply⟩]
    let missed : Visit := ⟨fresh, .start, asked ⟨[], 0⟩,
      .refuse (.lifecycle (.schemaMismatch schemaVersion none)), fresh⟩
    let found : Visit := ⟨fresh, .start, asked ⟨[[.integer 2]], 0⟩, .ok (), ready⟩
    let served : Visit := ⟨ready, .operate .namespaces,
      [⟨.acquire, .ok ()⟩, ⟨.query .namespaces, .ok ⟨[], 0⟩⟩], .ok [], ready⟩
    Life (.new config) ([missed, found] ++ [served]) ready ∧
      ∃ past ∈ [missed, found], past.Confirms := by
  intro config fresh ready asked missed found served
  have misses : missed.Occurs := .ask _ (.ask _ (.done _))
  have finds : found.Occurs := .ask _ (.ask _ (.done _))
  have serves : served.Occurs := .ask _ (.ask _ (.done _))
  have life : Life (.new config) ([missed, found] ++ [served]) ready :=
    .visit misses (.visit finds (.visit serves (.done ready)))
  have sent : (⟨.query .namespaces, .ok ⟨[], 0⟩⟩ : Exchange) ∈ served.exchanges := by
    simp [served]
  exact ⟨life, ((schema_gate life).1 _ sent rfl (by simp)).2⟩

end ArchiveCatalog.Sql
