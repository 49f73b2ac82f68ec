import Tickwork.Arrangement

/-!
# The entries of an arrangement

An arrangement keeps its entries. Main statement: whatever the comparison says, entries that could be
arranged are a permutation of those that were given. It is shown by counting: of every kind of entry
there are as many after each step as before it.
-/

set_option autoImplicit false

namespace Tickwork

variable {α ε : Type}

namespace Arrangement

theorem bind_eq_ok {β γ : Type} {act : Except ε β} {next : β → Except ε γ} {c : γ} :
    (act >>= next) = .ok c ↔ ∃ b, act = .ok b ∧ next b = .ok c := by
  cases act <;> simp [bind, Except.bind]

theorem countP_take_add_drop (kind : α → Bool) (n : Nat) (xs : List α) :
    (xs.take n).countP kind + (xs.drop n).countP kind = xs.countP kind := by
  rw [← List.countP_append, List.take_append_drop]

/-! ## Runs -/

theorem countP_of_frontRun (kind : α → Bool) {below : α → α → Except ε Bool}
    {entries front rest : List α} (h : frontRun below entries = .ok (front, rest)) :
    front.countP kind + rest.countP kind = entries.countP kind := by
  match entries with
  | [] | [_] => simp_all [frontRun]
  | x :: y :: more =>
    simp only [frontRun, bind_eq_ok, Except.ok.injEq, Prod.mk.injEq] at h
    obtain ⟨falling, -, n, -, rfl, rfl⟩ := h
    have := countP_take_add_drop kind n more
    cases falling <;> simp [List.countP_cons] <;> omega

theorem countP_of_insertAll (kind : α → Bool) {below : α → α → Except ε Bool}
    {run entries result : List α} (h : insertAll below run entries = .ok result) :
    result.countP kind = run.countP kind + entries.countP kind := by
  induction entries generalizing run with
  | nil => simp_all [insertAll]
  | cons x rest ih =>
    simp only [insertAll, bind_eq_ok] at h
    obtain ⟨n, -, h⟩ := h
    have := countP_take_add_drop kind n run
    rw [ih h]
    simp [List.countP_cons]
    omega

theorem countP_of_nextRun (kind : α → Bool) {below : α → α → Except ε Bool} {least : Nat}
    {entries run rest : List α} (h : nextRun below least entries = .ok (run, rest)) :
    run.countP kind + rest.countP kind = entries.countP kind := by
  simp only [nextRun, bind_eq_ok, Except.ok.injEq, Prod.mk.injEq] at h
  obtain ⟨⟨front, others⟩, hfront, filled, hrun, rfl, rfl⟩ := h
  have := countP_of_frontRun kind hfront
  have := countP_of_insertAll kind hrun
  have := countP_take_add_drop kind (least - front.length) others
  simp only at *
  omega

/-! ## Merges -/

namespace Merging

/-- How many entries of a kind there are in both runs and in what went out. -/
def total (kind : α → Bool) (m : Merging α) : Nat :=
  m.out.countP kind + m.left.countP kind + m.right.countP kind

theorem total_takeLeft (kind : α → Bool) (m : Merging α) (n : Nat) :
    (m.takeLeft n).total kind = m.total kind := by
  have := countP_take_add_drop kind n m.left
  simp [total, takeLeft]
  omega

theorem total_takeRight (kind : α → Bool) (m : Merging α) (n : Nat) :
    (m.takeRight n).total kind = m.total kind := by
  have := countP_take_add_drop kind n m.right
  simp [total, takeRight]
  omega

theorem countP_finish (kind : α → Bool) (m : Merging α) :
    m.finish.countP kind = m.total kind := by
  unfold finish total
  split <;> simp <;> omega

theorem total_of_leapLeft (kind : α → Bool) {below : α → α → Except ε Bool} {m after : Merging α}
    {n : Nat} (h : m.leapLeft below = .ok (n, after)) : after.total kind = m.total kind := by
  unfold leapLeft at h
  split at h
  · simp_all
  · simp only [bind_eq_ok, Except.ok.injEq, Prod.mk.injEq] at h
    obtain ⟨k, -, -, rfl⟩ := h
    exact total_takeLeft kind m k

theorem total_of_leapRight (kind : α → Bool) {below : α → α → Except ε Bool} {m after : Merging α}
    {n : Nat} (h : m.leapRight below = .ok (n, after)) : after.total kind = m.total kind := by
  unfold leapRight at h
  split at h
  · simp_all
  · simp only [bind_eq_ok, Except.ok.injEq, Prod.mk.injEq] at h
    obtain ⟨k, -, -, rfl⟩ := h
    exact total_takeRight kind m k

theorem total_of_leapRound (kind : α → Bool) {below : α → α → Except ε Bool}
    {m after : Merging α} {pays : Bool} (h : m.leapRound below = .ok (pays, after)) :
    after.total kind = m.total kind := by
  simp only [leapRound, bind_eq_ok] at h
  obtain ⟨⟨lefts, one⟩, hone, h⟩ := h
  have hleft := total_of_leapLeft kind hone
  split at h
  · simp_all
  split at h
  · simp only [Except.ok.injEq, Prod.mk.injEq] at h
    rw [← h.2, total_takeRight, hleft]
  simp only [bind_eq_ok] at h
  obtain ⟨⟨rights, two⟩, htwo, h⟩ := h
  have hright := (total_of_leapRight kind htwo).trans (total_takeRight kind one 1)
  split at h
  · simp_all
  · simp only [Except.ok.injEq, Prod.mk.injEq] at h
    rw [← h.2, total_takeLeft, hright, hleft]

theorem countP_of_run (kind : α → Bool) {below : α → α → Except ε Bool} {fuel patience : Nat}
    {pace : Pace} {m : Merging α} {result : Nat × List α}
    (h : run below fuel patience pace m = .ok result) :
    result.2.countP kind = m.total kind := by
  induction fuel generalizing patience pace m with
  | zero =>
    simp only [run, Except.ok.injEq] at h
    rw [← h, countP_finish]
  | succ fuel ih =>
    unfold run at h
    split at h
    · simp only [Except.ok.injEq] at h
      rw [← h, countP_finish]
    split at h
    · simp only [bind_eq_ok] at h
      obtain ⟨⟨pays, after⟩, hround, h⟩ := h
      have hround := total_of_leapRound kind hround
      split at h
      · simp only [Except.ok.injEq] at h
        rw [← h, countP_finish, hround]
      · split at h <;> rw [ih h, hround]
    · simp only [bind_eq_ok] at h
      obtain ⟨goes, -, h⟩ := h
      cases goes
      · exact (ih h).trans (total_takeLeft kind m 1)
      · exact (ih h).trans (total_takeRight kind m 1)
    · simp only [Except.ok.injEq] at h
      rw [← h, countP_finish]

end Merging

theorem countP_of_merge (kind : α → Bool) {below : α → α → Except ε Bool} {patience : Nat}
    {left right : List α} {result : Nat × List α}
    (h : merge below patience left right = .ok result) :
    result.2.countP kind = left.countP kind + right.countP kind := by
  unfold merge at h
  simp only at h
  split at h
  · rw [Merging.countP_of_run kind h, Merging.total_takeRight]
    simp [Merging.total]
  · simp only [bind_eq_ok, Except.ok.injEq] at h
    obtain ⟨⟨patience', merged⟩, hrun, rfl⟩ := h
    have := Merging.countP_of_run kind hrun
    rw [Merging.total_takeLeft] at this
    simpa [Merging.total] using this

theorem countP_of_join (kind : α → Bool) {below : α → α → Except ε Bool} {patience : Nat}
    {left right : List α} {result : Nat × List α}
    (h : join below patience left right = .ok result) :
    result.2.countP kind = left.countP kind + right.countP kind := by
  unfold join at h
  split at h
  · simp only [Except.ok.injEq] at h
    simp [← h]
  rename_i y rest
  simp only [bind_eq_ok] at h
  obtain ⟨n, -, h⟩ := h
  split at h
  · simp only [Except.ok.injEq] at h
    simp [← h]
  · simp only [bind_eq_ok, Except.ok.injEq] at h
    obtain ⟨spare, -, ⟨patience', merged⟩, hmerge, rfl⟩ := h
    have := countP_of_merge kind hmerge
    have := countP_take_add_drop kind n left
    have := countP_take_add_drop kind ((y :: rest).length - spare) (y :: rest)
    simp only [List.countP_append] at *
    omega

/-! ## All runs -/

/-- How many entries of a kind there are in runs that wait. -/
def waitingTotal (kind : α → Bool) (waiting : Waiting α) : Nat :=
  ((waiting.map Prod.fst).flatten).countP kind

theorem countP_of_collapse (kind : α → Bool) {below : α → α → Except ε Bool} {border : Nat}
    {patience patience' : Nat} {waiting waiting' : Waiting α} {last last' : List α}
    (h : collapse below border patience waiting last = .ok (patience', waiting', last')) :
    waitingTotal kind waiting' + last'.countP kind =
      waitingTotal kind waiting + last.countP kind := by
  induction waiting generalizing patience last with
  | nil =>
    simp only [collapse, Except.ok.injEq, Prod.mk.injEq] at h
    simp [← h.2.1, ← h.2.2]
  | cons entry rest ih =>
    simp only [collapse] at h
    split at h
    · simp only [bind_eq_ok] at h
      obtain ⟨⟨patience'', joined⟩, hjoin, h⟩ := h
      have := countP_of_join kind hjoin
      rw [ih h]
      simp [waitingTotal] at *
      omega
    · simp only [Except.ok.injEq, Prod.mk.injEq] at h
      simp [← h.2.1, ← h.2.2]

theorem countP_of_gather (kind : α → Bool) {below : α → α → Except ε Bool} {total least : Nat}
    {fuel patience : Nat} {waiting : Waiting α} {last entries : List α}
    {result : Nat × List (List α)}
    (h : gather below total least fuel patience waiting last entries = .ok result) :
    result.2.flatten.countP kind =
      waitingTotal kind waiting + last.countP kind + entries.countP kind := by
  induction fuel generalizing patience waiting last entries with
  | zero =>
    simp only [gather, Except.ok.injEq] at h
    simp [← h, waitingTotal]
    omega
  | succ fuel ih =>
    match entries with
    | [] =>
      simp only [gather, Except.ok.injEq] at h
      simp [← h, waitingTotal]
      omega
    | x :: rest =>
      simp only [gather, bind_eq_ok] at h
      obtain ⟨⟨run, others⟩, hrun, ⟨patience', waiting', last'⟩, hcollapse, h⟩ := h
      have := countP_of_nextRun kind hrun
      have := countP_of_collapse kind hcollapse
      rw [ih h]
      simp [waitingTotal] at *
      omega

theorem countP_of_joinAll (kind : α → Bool) {below : α → α → Except ε Bool} {fuel patience : Nat}
    {runs : List (List α)} {result : List α}
    (h : joinAll below fuel patience runs = .ok result) :
    result.countP kind = runs.flatten.countP kind := by
  fun_induction joinAll below fuel patience runs generalizing result with
  | case1 fuel patience last run first rest shorter ih =>
    simp only [bind_eq_ok] at h
    obtain ⟨⟨patience', joined⟩, hjoin, h⟩ := h
    have := countP_of_join kind hjoin
    have := ih patience' joined h
    simp at *
    omega
  | case2 fuel patience last run first rest longer ih =>
    simp only [bind_eq_ok] at h
    obtain ⟨⟨patience', joined⟩, hjoin, h⟩ := h
    have := countP_of_join kind hjoin
    have := ih patience' joined h
    simp at *
    omega
  | case3 fuel patience last run =>
    cases hjoin : join below patience run last with
    | error e => simp [hjoin, Functor.map, Except.map] at h
    | ok joined =>
      have := countP_of_join kind hjoin
      simp [hjoin, Functor.map, Except.map] at h
      simp [← h]
      omega
  | case4 fuel patience runs =>
    simp only [Except.ok.injEq] at h
    simp [← h, List.countP_flatten]

end Arrangement

/-- An arrangement has the entries that it was made of. -/
theorem perm_of_arranged {below : α → α → Except ε Bool} {entries result : List α}
    (h : arranged below entries = .ok result) : result.Perm entries := by
  classical
  rw [List.perm_iff_count]
  intro a
  simp only [arranged, Arrangement.bind_eq_ok] at h
  obtain ⟨⟨first, rest⟩, hrun, ⟨patience, runs⟩, hgather, h⟩ := h
  have hrun := Arrangement.countP_of_nextRun (· == a) hrun
  have hgather := Arrangement.countP_of_gather (· == a) hgather
  have hjoin := Arrangement.countP_of_joinAll (· == a) h
  simp [Arrangement.waitingTotal] at *
  simp only [List.count]
  omega

end Tickwork
