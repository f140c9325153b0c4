import ArchiveCatalog.Lifecycle.Waiters

/-! What a waiter answers depends on what it sees between its start and its end: the first sight of
a ready or a stopped catalog, or of the time of its deadline, decides. Awaiting one waiter moves the
clock, which is a sight for all the others. -/

namespace ArchiveCatalog

/-- A timeout has as many ticks of a millisecond as it takes to cover it, and not one more. -/
theorem Duration.millisUp_le_iff {duration : Duration} {ticks : Nat} :
    duration.millisUp ≤ ticks ↔ duration.totalNanos ≤ ticks * 1000000 := by
  unfold millisUp
  omega

structure Sight where
  state : State
  clock : Nat

/-- Neither the state nor the time lets a waiter with this deadline end here. -/
structure Sight.Undecided (deadline : Nat) (sight : Sight) : Prop where
  notReady : sight.state ≠ .ready
  notStopped : sight.state ≠ .stopped
  early : sight.clock < deadline

/-- A waiter that sees these still waits when it comes to one of them. -/
def Reached (deadline : Nat) (sights : List Sight) (sight : Sight) : Prop :=
  ∃ before after, sights = before ++ sight :: after ∧
    ∀ earlier ∈ before, earlier.Undecided deadline

/-- A waiter that sees these comes to a state while it still waits. -/
def FirstSeen (target : State) (deadline : Nat) (sights : List Sight) : Prop :=
  ∃ sight, Reached deadline sights sight ∧ sight.state = target

private theorem undecided_or_reached (deadline : Nat) (sights : List Sight) :
    (∀ sight ∈ sights, sight.Undecided deadline) ∨
      ∃ sight, Reached deadline sights sight ∧ ¬sight.Undecided deadline := by
  induction sights with
  | nil => exact .inl (List.forall_mem_nil _)
  | cons first rest ih =>
    by_cases waits : first.Undecided deadline
    · rcases ih with all | ⟨sight, ⟨before, after, rfl, earlier⟩, decides⟩
      · exact .inl (List.forall_mem_cons.2 ⟨waits, all⟩)
      · exact .inr ⟨sight, ⟨first :: before, after, rfl,
          List.forall_mem_cons.2 ⟨waits, earlier⟩⟩, decides⟩
    · exact .inr ⟨first, ⟨[], rest, rfl, List.forall_mem_nil _⟩, waits⟩

private theorem Reached.mem {deadline : Nat} {sights : List Sight} {sight : Sight}
    (reached : Reached deadline sights sight) : sight ∈ sights := by
  obtain ⟨before, after, rfl, -⟩ := reached
  simp

namespace Waiter

def see (waiter : Waiter) (sight : Sight) : Waiter := waiter.observe sight.state sight.clock

/-- What the sights of a waiter make of it, one after the other. -/
def seeing (waiter : Waiter) (sights : List Sight) : Waiter := sights.foldl see waiter

section
variable {waiter : Waiter} {sight : Sight}

@[simp] theorem see_attached : (waiter.see sight).attached = waiter.attached := by
  unfold see observe
  split <;> rfl

theorem see_of_result {result : Except LifecycleError Unit} (ended : waiter.result = some result) :
    waiter.see sight = waiter := by
  simp [see, observe, ended]

theorem result_see (waits : waiter.result = none) :
    (waiter.see sight).result = waiter.verdict sight.state sight.clock := by
  simp [see, observe, waits]

/-- A second look at the same sight shows nothing new. -/
@[simp] theorem see_see : (waiter.see sight).see sight = waiter.see sight := by
  cases found : waiter.result with
  | some result => rw [see_of_result found, see_of_result found]
  | none => simp [see, observe, found, verdict]

theorem verdict_ready (attached : waiter.attached) (shows : sight.state = .ready) :
    waiter.verdict sight.state sight.clock = some (.ok ()) := by
  simp [verdict, attached, shows]

theorem verdict_stopped (attached : waiter.attached) (shows : sight.state = .stopped) :
    waiter.verdict sight.state sight.clock = some (.error .stopped) := by
  simp [verdict, attached, shows]

theorem verdict_late (notReady : sight.state ≠ .ready) (notStopped : sight.state ≠ .stopped)
    (late : waiter.deadline ≤ sight.clock) :
    waiter.verdict sight.state sight.clock = some (.error (.timeout waiter.timeout)) := by
  simp [verdict, notReady, notStopped, late]

private theorem see_undecided (waits : waiter.result = none)
    (undecided : sight.Undecided waiter.deadline) : waiter.see sight = waiter := by
  have verdict : waiter.verdict sight.state sight.clock = none := by
    simp [verdict, undecided.notReady, undecided.notStopped, undecided.early]
  simp only [see, observe, waits, verdict, Option.isSome_none, Bool.false_eq_true, if_false]
  rw [← waits]

private theorem undecided_of_verdict (attached : waiter.attached)
    (undecided : waiter.verdict sight.state sight.clock = none) :
    sight.Undecided waiter.deadline := by
  have notReady : sight.state ≠ .ready := by
    intro shows
    simp [verdict_ready attached shows] at undecided
  have notStopped : sight.state ≠ .stopped := by
    intro shows
    simp [verdict_stopped attached shows] at undecided
  refine ⟨notReady, notStopped, Nat.lt_of_not_le ?_⟩
  intro late
  simp [verdict_late notReady notStopped late] at undecided

end

private theorem seeing_of_result {waiter : Waiter} {result : Except LifecycleError Unit}
    (ended : waiter.result = some result) (sights : List Sight) :
    waiter.seeing sights = waiter := by
  induction sights with
  | nil => rfl
  | cons sight sights ih =>
    rw [seeing, List.foldl_cons, see_of_result ended]
    exact ih

private theorem seeing_undecided {waiter : Waiter} (waits : waiter.result = none)
    {sights : List Sight}
    (undecided : ∀ sight ∈ sights, sight.Undecided waiter.deadline) :
    waiter.seeing sights = waiter := by
  induction sights with
  | nil => rfl
  | cons sight sights ih =>
    obtain ⟨first, rest⟩ := List.forall_mem_cons.1 undecided
    rw [seeing, List.foldl_cons, see_undecided waits first]
    exact ih rest

/-- The first sight that decides is the one that counts. -/
theorem result_seeing {waiter : Waiter} (waits : waiter.result = none) {sights : List Sight}
    {sight : Sight} (reached : Reached waiter.deadline sights sight)
    {result : Except LifecycleError Unit}
    (decides : waiter.verdict sight.state sight.clock = some result) :
    (waiter.seeing sights).result = some result := by
  obtain ⟨before, after, rfl, undecided⟩ := reached
  have ended : (waiter.see sight).result = some result := (result_see waits).trans decides
  have split : waiter.seeing (before ++ sight :: after) =
      ((waiter.seeing before).see sight).seeing after := by
    simp [seeing]
  rw [split, seeing_undecided waits undecided, seeing_of_result ended, ended]

section
variable {waiter : Waiter} {sights : List Sight} (attached : waiter.attached)
  (waits : waiter.result = none)
include attached waits

private theorem seeing_ready (seen : FirstSeen .ready waiter.deadline sights) :
    (waiter.seeing sights).result = some (.ok ()) := by
  obtain ⟨sight, reached, shows⟩ := seen
  exact result_seeing waits reached (verdict_ready attached shows)

private theorem seeing_stopped (seen : FirstSeen .stopped waiter.deadline sights) :
    (waiter.seeing sights).result = some (.error .stopped) := by
  obtain ⟨sight, reached, shows⟩ := seen
  exact result_seeing waits reached (verdict_stopped attached shows)

omit attached in
/-- Without a sight of either end it is the clock that decides. -/
theorem seeing_neither (notReady : ¬FirstSeen .ready waiter.deadline sights)
    (notStopped : ¬FirstSeen .stopped waiter.deadline sights) :
    (waiter.seeing sights).result = some (.error (.timeout waiter.timeout)) ∧
        (∃ sight ∈ sights, waiter.deadline ≤ sight.clock) ∨
      (waiter.seeing sights).result = none ∧ ∀ sight ∈ sights, sight.clock < waiter.deadline := by
  rcases undecided_or_reached waiter.deadline sights with undecided | ⟨sight, reached, decides⟩
  · right
    rw [seeing_undecided waits undecided]
    exact ⟨waits, fun sight seen => (undecided sight seen).early⟩
  · left
    have ready : sight.state ≠ .ready := fun shows => notReady ⟨sight, reached, shows⟩
    have stopped : sight.state ≠ .stopped := fun shows => notStopped ⟨sight, reached, shows⟩
    have late : waiter.deadline ≤ sight.clock :=
      Nat.le_of_not_lt fun early => decides ⟨ready, stopped, early⟩
    exact ⟨result_seeing waits reached (verdict_late ready stopped late), sight, reached.mem, late⟩

end

end Waiter

namespace Waiters

private theorem await_of_result (waiters : Waiters) {state : State} {waiter : Waiter}
    {result : Except LifecycleError Unit}
    (ended : (waiter.see ⟨state, waiters.clock⟩).result = some result) :
    await state waiter waiters = (result, waiters) := by
  unfold await
  change (waiter.observe state waiters.clock).result = some result at ended
  rw [ended]

private theorem await_of_none (waiters : Waiters) {state : State} {waiter : Waiter}
    (waits : (waiter.see ⟨state, waiters.clock⟩).result = none) :
    await state waiter waiters = (.error (.timeout waiter.timeout),
      observe state { waiters with clock := max waiters.clock waiter.deadline }) := by
  unfold await
  change (waiter.observe state waiters.clock).result = none at waits
  rw [waits]

end Waiters

/-- A lifecycle with those who wait for it, and the results of those already joined. -/
structure Watch where
  watched : Watched State
  joined : List (Except LifecycleError Unit)

namespace Watch

/-- What can happen to a lifecycle and to those who wait for it. -/
inductive Event where
  | init
  | start
  | stop
  /-- A new waiter begins in the background. -/
  | spawn (timeout : Duration)
  /-- Someone waits in the foreground. -/
  | wait (timeout : Duration)
  /-- The oldest waiter is awaited. -/
  | join
  | elapse (millis : Nat)

def new : Watch := ⟨⟨.constructed, .start⟩, []⟩

variable (watch : Watch)

def state : State := watch.watched.subject

def waiters : Waiters := watch.watched.waiters

def clock : Nat := watch.waiters.clock

def sight : Sight := ⟨watch.state, watch.clock⟩

/-- The results of all waiters in the order of their start, as far as there are any. -/
def results : List (Option (Except LifecycleError Unit)) :=
  watch.joined.map some ++ watch.waiters.queue.map (·.result)

def move (target : State → Except LifecycleError State) : Watch :=
  ⟨(watch.watched.step id fun state => state.settle (target state)).2, watch.joined⟩

def withWaiters (waiters : Waiters) : Watch := ⟨⟨watch.state, waiters⟩, watch.joined⟩

def next : Event → Watch
  | .init => watch.move State.toInitialized
  | .start => watch.move State.toReady
  | .stop => watch.move fun _ => .ok .stopped
  | .spawn timeout => watch.withWaiters (watch.waiters.spawn watch.state timeout)
  | .wait timeout => watch.withWaiters (watch.waiters.wait watch.state timeout).2
  | .join =>
    match watch.waiters.join? watch.state with
    | some (result, waiters) => ⟨⟨watch.state, waiters⟩, watch.joined ++ [result]⟩
    | none => watch
  | .elapse millis =>
    watch.withWaiters
      (.observe watch.state { watch.waiters with clock := watch.clock + millis })

def run (events : List Event) : Watch := events.foldl next watch

/-- What is to be seen now and after each of the events. -/
def sights : Watch → List Event → List Sight
  | watch, [] => [watch.sight]
  | watch, event :: events => watch.sight :: (watch.next event).sights events

/-- Everyone who waits has seen how things stand. -/
def Attentive : Prop :=
  ∀ waiter ∈ watch.waiters.queue, waiter.attached ∧ waiter.see watch.sight = waiter

/-- Everyone who waits, and those who begin to, see how things stand after an event. -/
def AllSee (after : Watch) : Prop :=
  after.joined = watch.joined ∧ ∃ fresh : List Waiter, (∀ waiter ∈ fresh, waiter.attached) ∧
    after.waiters.queue = (watch.waiters.queue ++ fresh).map (·.see after.sight)

/-- The oldest waiter has ended with the result that it has after an event, which the others see
too. -/
def OldestEnds (after : Watch) : Prop :=
  ∃ waiter rest result, watch.waiters.queue = waiter :: rest ∧
    (waiter.see after.sight).result = some result ∧ after.joined = watch.joined ++ [result] ∧
    after.waiters.queue = rest.map (·.see after.sight)

variable {watch : Watch}

theorem Attentive.map_see (attentive : watch.Attentive) {waiters : List Waiter}
    (queued : waiters ⊆ watch.waiters.queue) : waiters = waiters.map (·.see watch.sight) := by
  have same : ∀ waiter ∈ waiters, waiter.see watch.sight = waiter :=
    fun waiter waits => (attentive waiter (queued waits)).2
  rw [List.map_congr_left same, List.map_id']

theorem allSee_of_queue {after : Watch} (joined : after.joined = watch.joined)
    (queue : after.waiters.queue = watch.waiters.queue.map (·.see after.sight)) :
    watch.AllSee after :=
  ⟨joined, [], List.forall_mem_nil _, by simpa using queue⟩

/-- Awaiting the oldest of attentive waiters ends it: with the result that it has already, or at its
deadline. -/
theorem join_cases (attentive : watch.Attentive) :
    watch.AllSee (watch.next .join) ∨ watch.OldestEnds (watch.next .join) := by
  cases queue : watch.waiters.queue with
  | nil =>
    have unchanged : watch.next .join = watch := by
      simp [next, Waiters.join?, queue]
    rw [unchanged]
    exact .inl (allSee_of_queue rfl (attentive.map_see (List.Subset.refl _)))
  | cons waiter rest =>
    obtain ⟨attached, seen⟩ := attentive waiter (by simp [queue])
    have others : rest ⊆ watch.waiters.queue := queue ▸ List.subset_cons_self ..
    right
    simp only [next, Waiters.join?, queue]
    cases ended : (waiter.see watch.sight).result with
    | some result =>
      rw [Waiters.await_of_result { watch.waiters with queue := rest } ended]
      exact ⟨waiter, rest, result, queue, ended, rfl, attentive.map_see others⟩
    | none =>
      rw [Waiters.await_of_none { watch.waiters with queue := rest } ended]
      have waits : waiter.result = none := seen ▸ ended
      have undecided : watch.sight.Undecided waiter.deadline :=
        Waiter.undecided_of_verdict attached ((Waiter.result_see waits).symm.trans ended)
      refine ⟨waiter, rest, _, queue, ?_, rfl, rfl⟩
      rw [Waiter.result_see waits]
      exact Waiter.verdict_late undecided.notReady undecided.notStopped (Nat.le_max_right ..)

/-- After an event everyone who waits sees how things stand then. A waiter may have begun, or the
oldest may have been joined. -/
theorem next_cases (attentive : watch.Attentive) (event : Event) :
    watch.AllSee (watch.next event) ∨ watch.OldestEnds (watch.next event) := by
  cases event with
  | init => exact .inl (allSee_of_queue rfl rfl)
  | start => exact .inl (allSee_of_queue rfl rfl)
  | stop => exact .inl (allSee_of_queue rfl rfl)
  | elapse millis => exact .inl (allSee_of_queue rfl rfl)
  | spawn timeout =>
    exact .inl ⟨rfl, [watch.waiters.begin timeout], by simp [Waiters.begin], rfl⟩
  | wait timeout =>
    left
    unfold next Waiters.wait Waiters.await
    dsimp only
    split
    · exact allSee_of_queue rfl (attentive.map_see (List.Subset.refl _))
    · exact allSee_of_queue rfl rfl
  | join => exact join_cases attentive

private theorem attentive_of_queue {after : Watch} {waiters : List Waiter}
    (attached : ∀ waiter ∈ waiters, waiter.attached)
    (queue : after.waiters.queue = waiters.map (·.see after.sight)) : after.Attentive := by
  intro waiter queued
  rw [queue] at queued
  obtain ⟨before, member, rfl⟩ := List.mem_map.1 queued
  refine ⟨?_, Waiter.see_see⟩
  rw [Waiter.see_attached]
  exact attached before member

theorem Attentive.next (attentive : watch.Attentive) (event : Event) :
    (watch.next event).Attentive := by
  have attached : ∀ waiter ∈ watch.waiters.queue, waiter.attached :=
    fun waiter waits => (attentive waiter waits).1
  rcases next_cases attentive event with
    ⟨-, fresh, begin, queue⟩ | ⟨oldest, rest, result, queue, -, -, others⟩
  · exact attentive_of_queue (List.forall_mem_append.2 ⟨attached, begin⟩) queue
  · rw [queue] at attached
    exact attentive_of_queue (List.forall_mem_cons.1 attached).2 others

theorem Attentive.run (attentive : watch.Attentive) (events : List Event) :
    (watch.run events).Attentive := by
  induction events generalizing watch with
  | nil => exact attentive
  | cons event events ih => exact ih (attentive.next event)

private theorem attentive_new : new.Attentive := List.forall_mem_nil _

/-- How the waiter with a number stands: it was joined, or it is still queued. -/
inductive Follows (watch : Watch) (number : Nat) (waiter : Waiter) : Prop where
  | joined {result : Except LifecycleError Unit} (there : watch.joined[number]? = some result)
      (ended : waiter.result = some result)
  | queued (position : Nat) (place : number = watch.joined.length + position)
      (there : watch.waiters.queue[position]? = some waiter)

variable {number : Nat} {waiter : Waiter}

theorem Follows.result (follows : watch.Follows number waiter) :
    watch.results[number]? = some waiter.result := by
  cases follows with
  | joined there ended =>
    have known : number < watch.joined.length := (List.getElem?_eq_some_iff.1 there).1
    rw [results, List.getElem?_append_left (by simpa using known)]
    simp [there, ended]
  | queued position place there =>
    subst place
    rw [results, List.getElem?_append_right (by simp)]
    simp [there]

/-- One step of one waiter: it sees what an event leads to. -/
theorem Follows.next (attentive : watch.Attentive) (follows : watch.Follows number waiter)
    (event : Event) :
    (watch.next event).Follows number (waiter.see (watch.next event).sight) := by
  -- either everyone sees the state, or the oldest waiter ends and the others see it
  rcases next_cases attentive event with
    ⟨joined, fresh, -, queue⟩ | ⟨oldest, rest, result, queue, ended, joined, others⟩
  · cases follows with
    | joined there ended =>
      rw [Waiter.see_of_result ended]
      exact .joined (joined ▸ there) ended
    | queued position place there =>
      refine .queued position (joined ▸ place) ?_
      have waits : position < watch.waiters.queue.length := (List.getElem?_eq_some_iff.1 there).1
      rw [queue, List.getElem?_map, List.getElem?_append_left waits, there, Option.map_some]
  · cases follows with
    | joined there ended =>
      have known : number < watch.joined.length := (List.getElem?_eq_some_iff.1 there).1
      rw [Waiter.see_of_result ended]
      refine .joined ?_ ended
      rw [joined, List.getElem?_append_left known, there]
    | queued position place there =>
      rw [queue] at there
      cases position with
      | zero =>
        cases there
        refine .joined ?_ ended
        simp [joined, place]
      | succ position =>
        refine .queued position ?_ ?_
        · rw [joined, place, List.length_append, List.length_singleton]
          omega
        · rw [others, List.getElem?_map]
          rw [List.getElem?_cons_succ] at there
          rw [there, Option.map_some]

/-- A waiter is what its sights have made of it. -/
theorem Follows.run (attentive : watch.Attentive)
    (follows : watch.Follows number (waiter.see watch.sight)) (events : List Event) :
    (watch.run events).Follows number (waiter.seeing (watch.sights events)) := by
  induction events generalizing watch waiter with
  | nil => exact follows
  | cons event events ih => exact ih (attentive.next event) (follows.next attentive event)

private theorem follows_spawn (watch : Watch) (timeout : Duration) :
    let begins := watch.next (.spawn timeout)
    begins.Follows watch.results.length ((watch.waiters.begin timeout).see begins.sight) := by
  intro begins
  have queue : begins.waiters.queue =
      (watch.waiters.queue ++ [watch.waiters.begin timeout]).map (·.see begins.sight) := rfl
  have place : watch.results.length = begins.joined.length + watch.waiters.queue.length := by
    simp [results, begins, next, withWaiters]
  refine .queued watch.waiters.queue.length place ?_
  rw [queue, List.getElem?_map, List.getElem?_concat_length, Option.map_some]

theorem Attentive.follows (attentive : watch.Attentive)
    (pending : watch.results[number]? = some none) :
    ∃ waiter, watch.Follows number waiter ∧ waiter.attached ∧ waiter.result = none := by
  rcases Nat.lt_or_ge number watch.joined.length with known | later
  · rw [results, List.getElem?_append_left (by simpa using known), List.getElem?_map] at pending
    obtain ⟨result, -, ended⟩ := Option.map_eq_some_iff.1 pending
    cases ended
  · rw [results, List.getElem?_append_right (by simpa using later), List.getElem?_map] at pending
    obtain ⟨waiter, there, waits⟩ := Option.map_eq_some_iff.1 pending
    rw [List.length_map] at there
    exact ⟨waiter, .queued _ (Nat.add_sub_of_le later).symm there,
      (attentive waiter (List.mem_of_getElem? there)).1, waits⟩

private theorem Follows.result_run (attentive : watch.Attentive)
    (follows : watch.Follows number waiter)
    {result : Except LifecycleError Unit} (ended : waiter.result = some result)
    (events : List Event) : (watch.run events).results[number]? = some (some result) := by
  have seen : waiter.see watch.sight = waiter := Waiter.see_of_result ended
  have last := (Follows.run attentive (seen.symm ▸ follows) events).result
  rwa [Waiter.seeing_of_result ended, ended] at last

/-- Whoever still waits when the catalog becomes ready or is stopped ends with this. -/
theorem Attentive.result_of_next (attentive : watch.Attentive)
    (pending : watch.results[number]? = some none) (event : Event) (events : List Event) :
    ((watch.next event).state = .ready →
      ((watch.next event).run events).results[number]? = some (some (.ok ()))) ∧
    ((watch.next event).state = .stopped →
      ((watch.next event).run events).results[number]? = some (some (.error .stopped))) := by
  obtain ⟨waiter, follows, attached, waits⟩ := attentive.follows pending
  have sees := (Waiter.result_see waits : (waiter.see (watch.next event).sight).result = _)
  constructor
  · intro ready
    exact (follows.next attentive event).result_run (attentive.next event)
      (sees.trans (Waiter.verdict_ready attached ready)) events
  · intro stopped
    exact (follows.next attentive event).result_run (attentive.next event)
      (sees.trans (Waiter.verdict_stopped attached stopped)) events

private theorem clock_await (state : State) (waiter : Waiter) (waiters : Waiters) :
    waiters.clock ≤ (Waiters.await state waiter waiters).2.clock := by
  unfold Waiters.await
  split
  · exact Nat.le_refl _
  · exact Nat.le_max_left ..

private theorem clock_next (watch : Watch) (event : Event) : watch.clock ≤
    (watch.next event).clock := by
  cases event with
  | init => exact Nat.le_refl _
  | start => exact Nat.le_refl _
  | stop => exact Nat.le_refl _
  | spawn timeout => exact Nat.le_refl _
  | elapse millis => exact Nat.le_add_right ..
  | wait timeout => exact clock_await ..
  | join =>
    unfold next Waiters.join?
    cases watch.waiters.queue with
    | nil => exact Nat.le_refl _
    | cons waiter rest => exact clock_await watch.state waiter { watch.waiters with queue := rest }

private theorem clock_run (watch : Watch) (events : List Event) :
    watch.clock ≤ (watch.run events).clock := by
  induction events generalizing watch with
  | nil => exact Nat.le_refl _
  | cons event events ih => exact Nat.le_trans (watch.clock_next event) (ih (watch.next event))

private theorem clock_sights {watch : Watch} {events : List Event} {sight : Sight}
    (seen : sight ∈ watch.sights events) : sight.clock ≤ (watch.run events).clock := by
  induction events generalizing watch with
  | nil =>
    cases List.mem_singleton.1 seen
    exact Nat.le_refl _
  | cons event events ih =>
    rcases List.mem_cons.1 seen with rfl | later
    · exact watch.clock_run (event :: events)
    · exact ih later

private theorem last_mem_sights (watch : Watch) (events : List Event) :
    (watch.run events).sight ∈ watch.sights events := by
  induction events generalizing watch with
  | nil => exact List.mem_singleton_self _
  | cons event events ih => exact List.mem_cons_of_mem _ (ih (watch.next event))

private theorem state_move (watch : Watch) (target : State → Except LifecycleError State) :
    (watch.move target).state = (watch.state.settle (target watch.state)).2 := rfl

private theorem state_next_of_stopped {watch : Watch} (stopped : watch.state = .stopped)
    (event : Event) :
    (watch.next event).state = .stopped := by
  cases event with
  | init =>
    rw [next, state_move, stopped]
    rfl
  | start =>
    rw [next, state_move, stopped]
    rfl
  | stop => rfl
  | spawn timeout => exact stopped
  | elapse millis => exact stopped
  | wait timeout => exact stopped
  | join =>
    simp only [next]
    split <;> exact stopped

private theorem state_run_of_stopped {watch : Watch} (stopped : watch.state = .stopped)
    (events : List Event) : (watch.run events).state = .stopped := by
  induction events generalizing watch with
  | nil => exact stopped
  | cons event events ih => exact ih (state_next_of_stopped stopped event)

private theorem state_run_of_stop (watch : Watch) {events : List Event} (stop : .stop ∈ events) :
    (watch.run events).state = .stopped := by
  obtain ⟨before, after, rfl⟩ := List.append_of_mem stop
  have halted : ((watch.run before).next .stop).state = .stopped := rfl
  rw [run, List.foldl_append, List.foldl_cons]
  exact state_run_of_stopped halted after

/-- What a waiter that has seen these has for a result by now. -/
structure Decided (timeout : Duration) (deadline : Nat) (sights : List Sight) (clock : Nat)
    (result : Option (Except LifecycleError Unit)) : Prop where
  ready : result = some (.ok ()) ↔ FirstSeen .ready deadline sights
  stopped : result = some (.error .stopped) ↔ FirstSeen .stopped deadline sights
  timeout : result = some (.error (.timeout timeout)) ↔ deadline ≤ clock ∧
    ¬FirstSeen .ready deadline sights ∧ ¬FirstSeen .stopped deadline sights
  waits : result = none ↔ clock < deadline ∧
    ¬FirstSeen .ready deadline sights ∧ ¬FirstSeen .stopped deadline sights

/-- The fates of a waiter exclude each other, and one of them is always its own. -/
theorem decided_of_sights {waiter : Waiter} (attached : waiter.attached)
    (waits : waiter.result = none) {sights : List Sight} {clock : Nat}
    (upper : ∀ sight ∈ sights, sight.clock ≤ clock)
    (reached : ∃ sight ∈ sights, sight.clock = clock) :
    Decided waiter.timeout waiter.deadline sights clock (waiter.seeing sights).result := by
  -- whether a state is seen in time is decided before the clock is looked at
  by_cases ready : FirstSeen .ready waiter.deadline sights
  · have ended := Waiter.seeing_ready attached waits ready
    have notStopped : ¬FirstSeen .stopped waiter.deadline sights := by
      intro stopped
      simp [Waiter.seeing_stopped attached waits stopped] at ended
    constructor <;> simp [ended, ready, notStopped]
  · by_cases stopped : FirstSeen .stopped waiter.deadline sights
    · have ended := Waiter.seeing_stopped attached waits stopped
      constructor <;> simp [ended, ready, stopped]
    · rcases Waiter.seeing_neither waits ready stopped with
        ⟨ended, sight, seen, late⟩ | ⟨ended, early⟩
      · have late : waiter.deadline ≤ clock := Nat.le_trans late (upper sight seen)
        constructor <;> simp [ended, ready, stopped, late]
      · obtain ⟨sight, seen, rfl⟩ := reached
        have early := early sight seen
        constructor <;> simp [ended, ready, stopped, early]

theorem Attentive.decided {watch : Watch} (attentive : watch.Attentive) (timeout : Duration)
    (later : List Event) :
    let begins := watch.next (.spawn timeout)
    ∃ result, (begins.run later).results[watch.results.length]? = some result ∧
      Decided timeout (watch.clock + timeout.millisUp) (begins.sights later)
        (begins.run later).clock result := by
  intro begins
  let waiter := watch.waiters.begin timeout
  have last :
      (begins.run later).Follows watch.results.length (waiter.seeing (begins.sights later)) :=
    (follows_spawn watch timeout).run (attentive.next _) later
  have law := @decided_of_sights waiter rfl rfl _ _ (fun _ seen => clock_sights seen)
    ⟨_, last_mem_sights begins later, rfl⟩
  exact ⟨_, last.result, law⟩

/-- Whoever waits in the foreground sees how things stand, and once more when the time is up. -/
theorem decided_wait (watch : Watch) (timeout : Duration) :
    let after := watch.next (.wait timeout)
    Decided timeout (watch.clock + timeout.millisUp) [watch.sight, after.sight] after.clock
      (some (watch.waiters.wait watch.state timeout).1) := by
  intro after
  let waiter := watch.waiters.begin timeout
  have ended : (waiter.seeing [watch.sight, after.sight]).result =
      some (watch.waiters.wait watch.state timeout).1 := by
    change ((waiter.see watch.sight).see after.sight).result = _
    cases found : (waiter.see watch.sight).result with
    | some result =>
      have awaited := Waiters.await_of_result watch.waiters found
      rw [Waiter.see_of_result found, found, Waiters.wait, awaited]
    | none =>
      have undecided : watch.sight.Undecided waiter.deadline :=
        Waiter.undecided_of_verdict rfl found
      have awaited := Waiters.await_of_none watch.waiters found
      have late : waiter.deadline ≤ after.clock := by
        change _ ≤ (Waiters.await watch.state waiter watch.waiters).2.clock
        rw [awaited]
        exact Nat.le_max_right ..
      rw [Waiters.wait, awaited, Waiter.see_undecided rfl undecided, Waiter.result_see rfl]
      exact Waiter.verdict_late undecided.notReady undecided.notStopped late
  rw [← ended]
  apply @decided_of_sights waiter rfl rfl
  · have later : watch.clock ≤ after.clock := watch.clock_next _
    simp [sight, later]
  · exact ⟨after.sight, by simp, rfl⟩

private theorem firstSeen_now (watch : Watch) {target : State} (shows : watch.state = target)
    (deadline : Nat) (events : List Event) :
    FirstSeen target deadline (watch.sights events) := by
  refine ⟨watch.sight, ?_, shows⟩
  cases events with
  | nil => exact ⟨[], [], rfl, List.forall_mem_nil _⟩
  | cons event events => exact ⟨[], _, rfl, List.forall_mem_nil _⟩

/-- Whatever happens before and after a waiter begins, it ends well if it sees a ready catalog while
it still waits, is told of the stop if it sees a stopped one, and otherwise gives up with its own
timeout once the clock reaches its deadline; and so does whoever waits in the foreground. The clock
reaches the deadline at the first millisecond that leaves the whole timeout. Hence a ready catalog
satisfies any timeout, and no waiter that begins after a stop ends well. Those who still wait when
the catalog becomes ready or is stopped get the same result. -/
theorem waiters_decided (earlier later : List Event) (timeout : Duration) :
    let watch := new.run earlier
    let deadline := watch.clock + timeout.millisUp
    let begins := watch.next (.spawn timeout)
    let last := begins.run later
    let waited := watch.next (.wait timeout)
    (∀ clock, deadline ≤ clock ↔
      watch.clock * 1000000 + timeout.totalNanos ≤ clock * 1000000) ∧
    (∃ result, last.results[watch.results.length]? = some result ∧
      Decided timeout deadline (begins.sights later) last.clock result) ∧
    Decided timeout deadline [watch.sight, waited.sight] waited.clock
      (some (watch.waiters.wait watch.state timeout).1) ∧
    (watch.state = .ready → last.results[watch.results.length]? = some (some (.ok ())) ∧
      (watch.waiters.wait watch.state timeout).1 = .ok ()) ∧
    (.stop ∈ earlier → last.results[watch.results.length]? = some (some (.error .stopped)) ∧
      (watch.waiters.wait watch.state timeout).1 = .error .stopped) ∧
    ∀ (event : Event) (one other : Nat),
      watch.results[one]? = some none → watch.results[other]? = some none →
      ((watch.next event).state = .ready ∨ (watch.next event).state = .stopped) →
        let ends := (watch.next event).run later
        ends.results[one]? = ends.results[other]? ∧
          (ends.results[one]? = some (some (.ok ())) ∨
            ends.results[one]? = some (some (.error .stopped))) := by
  intro watch deadline begins last waited
  have attentive : watch.Attentive := attentive_new.run earlier
  obtain ⟨result, there, decided⟩ := attentive.decided timeout later
  have foreground := watch.decided_wait timeout
  refine ⟨?_, ⟨result, there, decided⟩, foreground, ?_, ?_, ?_⟩
  · intro clock
    have ticks : timeout.millisUp ≤ clock - watch.clock ↔ _ := Duration.millisUp_le_iff
    omega
  · intro ready
    have seen : FirstSeen .ready deadline (begins.sights later) := firstSeen_now begins ready ..
    have now : FirstSeen .ready deadline [watch.sight, waited.sight] :=
      ⟨watch.sight, ⟨[], _, rfl, List.forall_mem_nil _⟩, ready⟩
    exact ⟨there.trans (congrArg some (decided.ready.2 seen)),
      Option.some.inj (foreground.ready.2 now)⟩
  · intro stop
    have stopped : watch.state = .stopped := state_run_of_stop new stop
    have seen : FirstSeen .stopped deadline (begins.sights later) := firstSeen_now begins stopped ..
    have now : FirstSeen .stopped deadline [watch.sight, waited.sight] :=
      ⟨watch.sight, ⟨[], _, rfl, List.forall_mem_nil _⟩, stopped⟩
    exact ⟨there.trans (congrArg some (decided.stopped.2 seen)),
      Option.some.inj (foreground.stopped.2 now)⟩
  · intro event one other oneWaits otherWaits ends
    obtain ⟨oneReady, oneStopped⟩ := attentive.result_of_next oneWaits event later
    obtain ⟨otherReady, otherStopped⟩ := attentive.result_of_next otherWaits event later
    rcases ends with ready | stopped
    · exact ⟨(oneReady ready).trans (otherReady ready).symm, .inl (oneReady ready)⟩
    · exact ⟨(oneStopped stopped).trans (otherStopped stopped).symm, .inr (oneStopped stopped)⟩

/-- Two who wait when a catalog is started, one who begins after this with no time at all, one who
begins after a stop, and one who gives up after two milliseconds, when its time is up. -/
theorem waiters_decided_of_start :
    let waiting := new.run [.init, .spawn (.ofSecs 5), .spawn (.ofSecs 3)]
    let ready := new.run [.init, .start]
    let stopped := new.run [.init, .stop]
    let brief : Duration := ⟨0, 1500000⟩
    let late := ((new.run [.init]).next (.spawn brief)).run [.join]
    ((waiting.next .start).run [.stop, .join]).results[0]? =
        ((waiting.next .start).run [.stop, .join]).results[1]? ∧
      ((ready.next (.spawn (.ofSecs 0))).run [.stop]).results[0]? = some (some (.ok ())) ∧
      ((stopped.next (.spawn (.ofSecs 5))).run [.start]).results[0]? =
        some (some (.error .stopped)) ∧
      late.clock = 2 ∧ late.results[0]? = some (some (.error (.timeout brief))) := by
  intro waiting ready stopped brief late
  obtain ⟨-, -, -, -, -, together⟩ := waiters_decided
    [.init, .spawn (.ofSecs 5), .spawn (.ofSecs 3)] [.stop, .join] (.ofSecs 0)
  obtain ⟨-, -, -, served, -⟩ := waiters_decided [.init, .start] [.stop] (.ofSecs 0)
  obtain ⟨-, -, -, -, refused, -⟩ := waiters_decided [.init, .stop] [.start] (.ofSecs 5)
  obtain ⟨-, ⟨result, there, decided⟩, -⟩ := waiters_decided [.init] [.join] brief
  have unready : ∀ sight ∈ ((new.run [.init]).next (.spawn brief)).sights [.join],
      sight.state = .initialized := by decide
  have unseen (target : State) (differs : target ≠ .initialized) (deadline : Nat) :
      ¬FirstSeen target deadline (((new.run [.init]).next (.spawn brief)).sights [.join]) := by
    rintro ⟨sight, reached, shows⟩
    exact differs (shows.symm.trans (unready sight reached.mem))
  have gaveUp := decided.timeout.2 ⟨by decide, unseen _ (by decide) _, unseen _ (by decide) _⟩
  refine ⟨(together .start 0 1 rfl rfl (.inl rfl)).1, (served rfl).1, (refused (by simp)).1,
    by decide, ?_⟩
  rw [← gaveUp]
  exact there

end Watch

end ArchiveCatalog
