import Mathlib.Data.List.Infix
import Mathlib.Data.List.Perm.Basic
import Rollout.Run.Pool

namespace Rollout

def starts (events : List RunEvent) : List Resource :=
  events.filterMap fun
    | .started r => some r
    | _ => none

def endings (events : List RunEvent) : List (Resource × ApplyResult) :=
  events.filterMap fun
    | .ended r result => some (r, result)
    | _ => none

@[simp] theorem starts_append (a b : List RunEvent) : starts (a ++ b) = starts a ++ starts b :=
  List.filterMap_append
@[simp] theorem endings_append (a b : List RunEvent) :
    endings (a ++ b) = endings a ++ endings b := List.filterMap_append
@[simp] theorem starts_started (r : Resource) : starts [.started r] = [r] := rfl
@[simp] theorem starts_ended (r : Resource) (result : ApplyResult) :
    starts [.ended r result] = [] := rfl
@[simp] theorem endings_started (r : Resource) : endings [.started r] = [] := rfl
@[simp] theorem endings_ended (r : Resource) (result : ApplyResult) :
    endings [.ended r result] = [(r, result)] := rfl
@[simp] theorem starts_connected (kubeconfig : KubeConfig) (result : Except RemoteError Unit) :
    starts [.connected kubeconfig result] = [] := rfl
@[simp] theorem endings_connected (kubeconfig : KubeConfig) (result : Except RemoteError Unit) :
    endings [.connected kubeconfig result] = [] := rfl
@[simp] theorem starts_nil : starts [] = [] := rfl
@[simp] theorem endings_nil : endings [] = [] := rfl

theorem mem_starts {events : List RunEvent} {r : Resource} :
    r ∈ starts events ↔ .started r ∈ events := by
  simp only [starts, List.mem_filterMap]
  constructor
  · rintro ⟨event, member, same⟩
    cases event <;> simp_all
  · intro member
    exact ⟨_, member, rfl⟩

theorem mem_endings {events : List RunEvent} {r : Resource} {result : ApplyResult} :
    (r, result) ∈ endings events ↔ .ended r result ∈ events := by
  simp only [endings, List.mem_filterMap]
  constructor
  · rintro ⟨event, member, same⟩
    cases event <;> simp_all
  · intro member
    exact ⟨_, member, rfl⟩

-- At every moment at most `limit` calls have begun and not ended.
def Bounded (limit : Nat) (events : List RunEvent) : Prop :=
  ∀ before, before <+: events → (starts before).length ≤ (endings before).length + limit

theorem Bounded.snoc {limit : Nat} {events : List RunEvent} {event : RunEvent}
    (bounded : Bounded limit events)
    (whole : (starts (events ++ [event])).length ≤ (endings (events ++ [event])).length + limit) :
    Bounded limit (events ++ [event]) := by
  intro before initial
  rcases List.prefix_concat_iff.mp initial with rfl | earlier
  · exact whole
  · exact bounded before earlier

theorem Bounded.still {limit : Nat} {events : List RunEvent} (still : starts events = []) :
    Bounded limit events := by
  intro before initial
  have none := (initial.filterMap _).length_le.trans_eq (congrArg List.length still)
  exact Nat.le_trans none (Nat.zero_le _)

theorem Bounded.append {limit : Nat} {a b : List RunEvent} (first : Bounded limit a)
    (settled : (starts a).length = (endings a).length) (second : Bounded limit b) :
    Bounded limit (a ++ b) := by
  intro before initial
  obtain ⟨after, split⟩ := initial
  rcases List.append_eq_append_iff.mp split with ⟨rest, whole, -⟩ | ⟨rest, rfl, whole⟩
  · exact first before ⟨rest, whole.symm⟩
  · have bound := second rest ⟨after, whole.symm⟩
    simp only [starts_append, endings_append, List.length_append]
    omega

namespace Pool

variable {σ : Type} {outside : Outside σ} {limit : Nat} {timeLimit : Duration}
variable {calls : List (Nat × Resource)} {s s' : Stand σ} {turns : Nat → Turn}

-- What a turn does to a pool that has calls left. Withdrawing leaves no trace outside.
inductive Move (outside : Outside σ) (limit : Nat) (timeLimit : Duration) :
    Stand σ → Stand σ → Prop where
  | start {s : Stand σ} {i : Nat} {r : Resource} {rest : List (Nat × Resource)}
      (waits : s.pool.waiting = (i, r) :: rest) (room : s.pool.flying.length < limit)
      (calm : outside.cancelled s.outside = false) :
      Move outside limit timeLimit s
        ⟨⟨rest, s.pool.flying ++ [(i, r)], s.pool.finished⟩, s.events ++ [.started r],
          outside.start r s.outside⟩
  | withdraw {s : Stand σ} {i : Nat} {r : Resource} {rest : List (Nat × Resource)}
      (waits : s.pool.waiting = (i, r) :: rest)
      (stopped : outside.cancelled s.outside = true) :
      Move outside limit timeLimit s
        ⟨⟨rest, s.pool.flying, s.pool.finished ++ [(i, .error .cancelled)]⟩, s.events, s.outside⟩
  | finish {s : Stand σ} {i : Nat} {r : Resource} {position : Nat}
      (flies : s.pool.flying[position]? = some (i, r)) :
      Move outside limit timeLimit s
        ⟨⟨s.pool.waiting, s.pool.flying.eraseIdx position,
            s.pool.finished ++ [(i, (outside.finish r s.outside).1.within timeLimit)]⟩,
          s.events ++ [.ended r ((outside.finish r s.outside).1.within timeLimit)],
          (outside.finish r s.outside).2⟩

theorem start_move (may : s.pool.mayStart limit = true) :
    Move outside limit timeLimit s (start outside s) := by
  simp only [mayStart, Bool.and_eq_true, Bool.not_eq_true', decide_eq_true_eq] at may
  obtain ⟨some, room⟩ := may
  cases waits : s.pool.waiting with
  | nil => simp [waits] at some
  | cons call rest =>
    obtain ⟨i, r⟩ := call
    simp only [start, waits]
    split
    · rename_i stopped
      exact .withdraw waits stopped
    · rename_i going
      exact .start waits room (by simpa using going)

theorem finish_move {position : Nat} (inside : position < s.pool.flying.length) :
    Move outside limit timeLimit s (finish outside timeLimit position s) := by
  have flies := List.getElem?_eq_getElem inside
  obtain ⟨i, r⟩ := s.pool.flying[position]
  simp only [finish, flies]
  exact .finish flies

-- Where no call may begin, one is in flight: either nothing waits or the pool is full.
theorem flying_of_closed {pool : Pool} (positive : 0 < limit) (left : pool.pending ≠ 0)
    (closed : pool.mayStart limit = false) : 0 < pool.flying.length := by
  simp only [pending] at left
  simp only [mayStart, Bool.and_eq_false_iff, Bool.not_eq_false', List.isEmpty_iff,
    decide_eq_false_iff_not] at closed
  rcases closed with none | full
  · rw [none, List.length_nil] at left
    omega
  · omega

theorem possible_cases {pool : Pool} (t : Turn) (positive : 0 < limit)
    (left : pool.pending ≠ 0) :
    (pool.possible limit t = .start ∧ pool.mayStart limit = true) ∨
      ∃ i, pool.possible limit t = .finish i ∧ i < pool.flying.length := by
  have first := flying_of_closed positive left
  cases may : pool.mayStart limit with
  | true =>
    cases t with
    | start => simp [possible, may]
    | finish i => by_cases inside : i < pool.flying.length <;> simp [possible, may, inside]
  | false =>
    have some := first may
    cases t with
    | start => simp [possible, may, some]
    | finish i => by_cases inside : i < pool.flying.length <;> simp [possible, may, inside, some]

theorem turn_move {t : Turn} (positive : 0 < limit) (left : s.pool.pending ≠ 0) :
    Move outside limit timeLimit s (turn outside limit timeLimit t s) := by
  rcases possible_cases t positive left with ⟨chosen, may⟩ | ⟨i, chosen, inside⟩
  · simp only [turn, chosen]; exact start_move may
  · simp only [turn, chosen]; exact finish_move inside

theorem move_pending (move : Move outside limit timeLimit s s') :
    s'.pool.pending < s.pool.pending := by
  cases move with
  | start waits room calm =>
    simp only [pending, waits, List.length_cons, List.length_append, List.length_nil]
    omega
  | withdraw waits stopped =>
    simp only [pending, waits, List.length_cons]
    omega
  | finish flies =>
    obtain ⟨inside, -⟩ := List.getElem?_eq_some_iff.mp flies
    simp only [pending, List.length_eraseIdx, inside, if_true]
    omega

inductive Reached (outside : Outside σ) (limit : Nat) (timeLimit : Duration) (origin : Stand σ) :
    Stand σ → Prop where
  | refl : Reached outside limit timeLimit origin origin
  | step {s s' : Stand σ} : Reached outside limit timeLimit origin s →
      Move outside limit timeLimit s s' → Reached outside limit timeLimit origin s'

theorem drain_reached {origin : Stand σ} (positive : 0 < limit) (fuel n : Nat)
    (enough : s.pool.pending ≤ fuel) (path : Reached outside limit timeLimit origin s) :
    Reached outside limit timeLimit origin (drain outside limit timeLimit turns fuel n s) ∧
      (drain outside limit timeLimit turns fuel n s).pool.pending = 0 := by
  induction fuel generalizing n s with
  | zero => exact ⟨path, Nat.le_zero.mp enough⟩
  | succ fuel ih =>
    simp only [drain]
    split
    · rename_i empty
      exact ⟨path, empty⟩
    · rename_i left
      have move : Move outside limit timeLimit s (turn outside limit timeLimit (turns n) s) :=
        turn_move positive left
      have shorter := move_pending move
      exact ih (n + 1) (by omega) (path.step move)

-- A call that is over; a withdrawn one never began.
structure Over where
  index : Nat
  resource : Resource
  result : ApplyResult
  withdrawn : Bool

def Over.call (c : Over) : Nat × Resource := (c.index, c.resource)
def Over.began (c : Over) : Bool := !c.withdrawn

-- The books of a pool: every call of the tier is over, in flight or waiting, exactly once; the
-- events tell of those that began, and nothing else.
structure Books (outside : Outside σ) (limit : Nat) (calls : List (Nat × Resource)) (s : Stand σ)
    (past : List Over) : Prop where
  finished : s.pool.finished = past.map fun c => (c.index, c.result)
  ended : endings s.events = (past.filter Over.began).map fun c => (c.resource, c.result)
  withdrawn : ∀ c ∈ past, c.withdrawn = true →
    c.result = .error .cancelled ∧ ∃ t, outside.cancelled t = true
  shared : calls.Perm (past.map Over.call ++ s.pool.flying ++ s.pool.waiting)
  order : ∃ begun, calls = begun ++ s.pool.waiting ∧
    (starts s.events).Sublist (begun.map Prod.snd)
  bounded : Bounded limit s.events
  count : (starts s.events).length = (endings s.events).length + s.pool.flying.length
  room : s.pool.flying.length ≤ limit

theorem books_open (outside : Outside σ) (limit : Nat) (tier : List Resource) (s : σ) :
    Books outside limit (ofTier tier).waiting ⟨ofTier tier, [], s⟩ [] where
  finished := rfl
  ended := rfl
  withdrawn := by simp
  shared := by simp [ofTier]
  order := ⟨[], rfl, .slnil⟩
  bounded := .still rfl
  count := rfl
  room := Nat.zero_le _

theorem move_books {past : List Over} (books : Books outside limit calls s past)
    (move : Move outside limit timeLimit s s') : ∃ past', Books outside limit calls s' past' := by
  obtain ⟨begun, split, begunOrder⟩ := books.order
  cases move with
  | @start i r rest waits room calm =>
    refine ⟨past, books.finished, by simpa using books.ended, books.withdrawn, ?_, ?_, ?_, ?_, ?_⟩
    · simpa [waits, List.append_assoc] using books.shared
    · refine ⟨begun ++ [(i, r)], by simp [split, waits], ?_⟩
      simpa using begunOrder.append (.refl [r])
    · apply books.bounded.snoc
      have count := books.count
      simp only [starts_append, endings_append, starts_started, endings_started,
        List.length_append, List.length_cons, List.length_nil]
      omega
    · have count := books.count
      simp only [starts_append, endings_append, starts_started, endings_started,
        List.length_append, List.length_cons, List.length_nil]
      omega
    · simpa using Nat.succ_le_of_lt room
  | @withdraw i r rest waits stopped =>
    refine ⟨past ++ [⟨i, r, .error .cancelled, true⟩], ?_, ?_, ?_, ?_, ?_, books.bounded,
      books.count, books.room⟩
    · simp [books.finished]
    · simpa [Over.began] using books.ended
    · intro c member
      rcases List.mem_append.mp member with old | new
      · exact books.withdrawn c old
      · rw [List.mem_singleton.mp new]
        exact fun _ => ⟨rfl, _, stopped⟩
    · refine books.shared.trans ?_
      rw [waits]
      simp only [List.map_append, List.map_cons, List.map_nil, Over.call, List.append_assoc]
      exact List.Perm.append_left _ List.perm_middle
    · exact ⟨begun ++ [(i, r)], by simp [split, waits],
        begunOrder.trans (by simp)⟩
  | @finish i r position flies =>
    obtain ⟨inside, found⟩ := List.getElem?_eq_some_iff.mp flies
    have parts := List.getElem_cons_eraseIdx_perm inside
    rw [found] at parts
    have lengths := parts.length_eq
    simp only [List.length_cons] at lengths
    refine ⟨past ++ [⟨i, r, (outside.finish r s.outside).1.within timeLimit, false⟩], ?_, ?_, ?_,
      ?_, ⟨begun, split, by simpa using begunOrder⟩, ?_, ?_, ?_⟩
    · simp [books.finished]
    · simp [Over.began, books.ended]
    · intro c member
      rcases List.mem_append.mp member with old | new
      · exact books.withdrawn c old
      · rw [List.mem_singleton.mp new]
        exact fun never => by cases never
    · refine books.shared.trans ?_
      simp only [List.map_append, List.map_cons, List.map_nil, Over.call, List.append_assoc]
      exact List.Perm.append_left _ (List.Perm.append_right _ parts.symm)
    · apply books.bounded.snoc
      have count := books.count
      have room := books.room
      simp only [starts_append, endings_append, starts_ended, endings_ended, List.append_nil,
        List.length_append, List.length_cons, List.length_nil]
      omega
    · have count := books.count
      simp only [starts_append, endings_append, starts_ended, endings_ended, List.append_nil,
        List.length_append, List.length_cons, List.length_nil]
      omega
    · have room := books.room
      simp only
      omega

theorem reached_books {origin : Stand σ} {past : List Over}
    (books : Books outside limit calls origin past)
    (path : Reached outside limit timeLimit origin s) :
    ∃ past', Books outside limit calls s past' := by
  induction path with
  | refl => exact ⟨past, books⟩
  | step prior move ih =>
    obtain ⟨earlier, kept⟩ := ih
    exact move_books kept move

-- While nobody asks to stop, no call is skipped.
theorem reached_starts {origin : Stand σ} (calm : ∀ t, outside.cancelled t = false)
    (path : Reached outside limit timeLimit origin s) :
    starts s.events ++ s.pool.waiting.map Prod.snd =
      starts origin.events ++ origin.pool.waiting.map Prod.snd := by
  induction path with
  | refl => rfl
  | step prior move ih =>
    rw [← ih]
    cases move with
    | start waits room going => simp [waits]
    | withdraw waits stopped => rw [calm] at stopped; cases stopped
    | finish flies => simp

theorem reached_matched {origin : σ}
    (path : Reached outside limit timeLimit ⟨⟨calls, [], []⟩, [], origin⟩ s) :
    (starts s.events).Perm ((endings s.events).map Prod.fst ++ s.pool.flying.map Prod.snd) := by
  induction path with
  | refl => exact .nil
  | step prior move ih =>
    cases move with
    | start waits room going => simpa [← List.append_assoc] using ih.append_right _
    | withdraw waits stopped => exact ih
    | @finish i r position flies =>
      obtain ⟨inside, found⟩ := List.getElem?_eq_some_iff.mp flies
      have parts := (List.getElem_cons_eraseIdx_perm inside).map Prod.snd
      rw [found] at parts
      simp only [starts_append, starts_ended, List.append_nil, endings_append, endings_ended,
        List.map_append, List.map_cons, List.map_nil, List.append_assoc]
      exact ih.trans (.append_left _ parts.symm)

theorem pending_eq_zero {pool : Pool} (empty : pool.pending = 0) :
    pool.waiting = [] ∧ pool.flying = [] := by
  simp only [pending] at empty
  exact ⟨List.length_eq_zero_iff.mp (by omega), List.length_eq_zero_iff.mp (by omega)⟩

theorem ofTier_indices (tier : List Resource) :
    ((ofTier tier).waiting.map Prod.fst) = List.range tier.length := by
  simp [ofTier, List.mapIdx_eq_zipIdx_map, List.map_map, Function.comp_def,
    List.zipIdx_map_snd, List.range_eq_range']

theorem ofTier_resources (tier : List Resource) :
    (ofTier tier).waiting.map Prod.snd = tier := by
  simp [ofTier, List.mapIdx_eq_zipIdx_map, List.map_map, Function.comp_def, List.zipIdx_map_fst]

structure Completed (outside : Outside σ) (limit : Nat) (tier : List Resource)
    (results : List (Resource × Option ApplyResult)) (events : List RunEvent) : Prop where
  listed : results.map Prod.fst = tier
  answered : ∀ r answer, (r, answer) ∈ results → ∃ result, answer = some result ∧
    (.ended r result ∈ events ∨
      (result = .error .cancelled ∧ ∃ t, outside.cancelled t = true))
  reported : ∀ r result, .ended r result ∈ events → (r, some result) ∈ results
  order : (starts events).Sublist tier
  once : ((endings events).map Prod.fst).Subperm tier
  even : (starts events).length = (endings events).length
  bounded : Bounded limit events

theorem Completed.mem_tier {tier : List Resource}
    {results : List (Resource × Option ApplyResult)} {events : List RunEvent}
    (completed : Completed outside limit tier results events) {r : Resource} {x : ApplyResult}
    (ended : .ended r x ∈ events) : r ∈ tier := by
  rw [← completed.listed]
  exact List.mem_map_of_mem (completed.reported r x ended)

def resultsOf (tier : List Resource) (s : Stand σ) : List (Resource × Option ApplyResult) :=
  tier.mapIdx fun i r => (r, s.pool.finished.lookup i)

theorem resultsOf_resources (tier : List Resource) (s : Stand σ) :
    (resultsOf tier s).map Prod.fst = tier := by
  simp [resultsOf, List.mapIdx_eq_zipIdx_map, List.map_map, Function.comp_def,
    List.zipIdx_map_fst]

section Empty

variable {tier : List Resource} {past : List Over}

theorem calls_over (books : Books outside limit (ofTier tier).waiting s past)
    (done : s.pool.pending = 0) : (ofTier tier).waiting.Perm (past.map Over.call) := by
  obtain ⟨noWaiting, noFlying⟩ := pending_eq_zero done
  simpa [noWaiting, noFlying] using books.shared

theorem lookup_over (books : Books outside limit (ofTier tier).waiting s past)
    (done : s.pool.pending = 0) {c : Over} (member : c ∈ past) :
    s.pool.finished.lookup c.index = some c.result := by
  have indices := (calls_over books done).map Prod.fst
  rw [ofTier_indices, List.map_map] at indices
  have distinct := indices.nodup_iff.mp List.nodup_range
  rw [books.finished]
  refine Declared.lookup_of_mem ?_ (List.mem_map_of_mem member)
  simpa [List.map_map, Function.comp_def, Over.call] using distinct

theorem mem_resultsOf (books : Books outside limit (ofTier tier).waiting s past)
    (done : s.pool.pending = 0) {r : Resource} {answer : Option ApplyResult} :
    (r, answer) ∈ resultsOf tier s ↔ ∃ c ∈ past, c.resource = r ∧ answer = some c.result := by
  have shared := calls_over books done
  constructor
  · intro member
    obtain ⟨i, inside, same⟩ := List.mem_mapIdx.mp member
    obtain ⟨rfl, rfl⟩ := Prod.mk.inj same
    have waits : (i, tier[i]) ∈ (ofTier tier).waiting := List.mem_mapIdx.mpr ⟨i, inside, rfl⟩
    obtain ⟨c, isOver, isCall⟩ := List.mem_map.mp (shared.mem_iff.mp waits)
    obtain ⟨index, resource⟩ := Prod.mk.inj isCall
    exact ⟨c, isOver, resource, by rw [← index]; exact lookup_over books done isOver⟩
  · rintro ⟨c, isOver, rfl, rfl⟩
    have call : c.call ∈ (ofTier tier).waiting := shared.mem_iff.mpr (List.mem_map_of_mem isOver)
    obtain ⟨i, inside, same⟩ := List.mem_mapIdx.mp call
    obtain ⟨rfl, resource⟩ := Prod.mk.inj same
    exact List.mem_mapIdx.mpr ⟨_, inside, by rw [resource, lookup_over books done isOver]⟩

theorem completed_of_books (books : Books outside limit (ofTier tier).waiting s past)
    (done : s.pool.pending = 0) :
    Completed outside limit tier (resultsOf tier s) s.events := by
  obtain ⟨noWaiting, noFlying⟩ := pending_eq_zero done
  refine ⟨resultsOf_resources tier s, ?_, ?_, ?_, ?_, by simpa [noFlying] using books.count,
    books.bounded⟩
  · intro r answer member
    obtain ⟨c, isOver, rfl, rfl⟩ := (mem_resultsOf books done).mp member
    refine ⟨c.result, rfl, ?_⟩
    cases drawn : c.withdrawn with
    | true => exact .inr (books.withdrawn c isOver drawn)
    | false =>
      refine .inl (mem_endings.mp ?_)
      rw [books.ended]
      exact List.mem_map.mpr ⟨c, List.mem_filter.mpr ⟨isOver, by simp [Over.began, drawn]⟩, rfl⟩
  · intro r result ended
    have member := mem_endings.mpr ended
    rw [books.ended] at member
    obtain ⟨c, isOver, same⟩ := List.mem_map.mp member
    obtain ⟨rfl, rfl⟩ := Prod.mk.inj same
    exact (mem_resultsOf books done).mpr ⟨c, (List.mem_filter.mp isOver).1, rfl, rfl⟩
  · obtain ⟨begun, split, sublist⟩ := books.order
    rw [noWaiting, List.append_nil] at split
    rwa [← split, ofTier_resources] at sublist
  · have resources := (calls_over books done).map Prod.snd
    rw [ofTier_resources, List.map_map] at resources
    refine List.Subperm.trans ?_ resources.symm.subperm
    rw [books.ended, List.map_map]
    exact (List.filter_sublist.map _).subperm

end Empty

theorem run_completed (outside : Outside σ) (timeLimit : Duration) (turns : Nat → Turn)
    (positive : 0 < limit) (tier : List Resource) (s : σ) :
    ∃ stand : Stand σ,
      run outside limit timeLimit turns tier s =
        (resultsOf tier stand, stand.events, stand.outside) ∧
      Reached outside limit timeLimit ⟨ofTier tier, [], s⟩ stand ∧ stand.pool.pending = 0 ∧
      Completed outside limit tier (resultsOf tier stand) stand.events := by
  let origin : Stand σ := ⟨ofTier tier, [], s⟩
  obtain ⟨path, done⟩ : Reached outside limit timeLimit origin
      (drain outside limit timeLimit turns (ofTier tier).pending 0 origin) ∧ _ :=
    drain_reached positive (ofTier tier).pending 0 (Nat.le_refl _) .refl
  obtain ⟨past, books⟩ := reached_books (books_open outside limit tier s) path
  exact ⟨_, rfl, path, done, completed_of_books books done⟩

end Pool

end Rollout
