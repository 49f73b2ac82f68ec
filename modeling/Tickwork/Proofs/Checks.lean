import Tickwork.Arrangement.Entries
import Tickwork.Catalog.Bundled
import Tickwork.Proofs.Compilation
import Tickwork.Proofs.Data
import Tickwork.Shop.Serve

/-!
# Checking and loading

Factories are checked without being registered, and the check goes on where loading stops. Both come down
to the same: the factories under the paths are found one after the other (`Shelf.loadAll`), and each of them
has a graph that breaks no rule. Main statement: some paths can be loaded exactly if every entry of their
check is good and no two of them are of one id; then each entry's factory is known under its id, with a graph
that breaks no rule, and a shop that has these factories finds it for the tasks of that id.
-/

set_option autoImplicit false

namespace Tickwork

open Arrangement (bind_eq_ok)

namespace Reading

variable {α β : Type}

theorem bind_ok {act : Reading α} {next : α → Reading β} {sites : Nat} {result : β × Nat} :
    (act >>= next) sites = .ok result ↔
      ∃ a sites', act sites = .ok (a, sites') ∧ next a sites' = .ok result := by
  have unfolded : (act >>= next) sites = act sites >>= fun came => next came.1 came.2 := rfl
  rw [unfolded, bind_eq_ok, Prod.exists]

theorem pure_ok {a : α} {sites : Nat} {result : α × Nat} :
    (pure a : Reading α) sites = .ok result ↔ result = (a, sites) := by
  have unfolded : (pure a : Reading α) sites = .ok (a, sites) := rfl
  rw [unfolded, Except.ok.injEq, eq_comm]

theorem ofExcept_ok {r : Except Fault α} {sites : Nat} {result : α × Nat} :
    Reading.ofExcept r sites = .ok result ↔ ∃ a, r = .ok a ∧ result = (a, sites) := by
  cases r <;> simp [Reading.ofExcept, Except.map, eq_comm]

end Reading

/-! ## One factory -/

theorem Graph.ensureValid_eq {F : Type} (g : Graph F) :
    g.ensureValid = g.examined.bind fun broken =>
      if broken = [] then .ok g else .error (.invalidGraph g.id broken) :=
  congrArg g.examined.bind (funext fun broken => Definition.judged_report g.id g broken)

namespace Source

variable {S : Type}

/-- A factory collides with itself, or a graph of its id is examined and what is found is reported. -/
theorem checked_cases (s : Source S) :
    (∃ id emitted, s.checked = .error (.collision id emitted)) ∨
      ∃ (g : Graph (Routine S)) (report : List Violation → List Violation), g.id = s.id ∧
        (∀ broken, report broken = [] → broken = []) ∧
        s.checked = g.examined.bind fun broken =>
          if report broken = [] then .ok g else .error (.invalidGraph s.id (report broken)) := by
  cases s with
  | definition d =>
      by_cases distinct : d.announced.Nodup
      · exact .inr ⟨d.lowered, d.report, rfl, fun _ nothing => (Definition.report_eq_nil.mp nothing).2,
          Definition.compile_of_distinct distinct⟩
      · exact .inl (Definition.compile_of_twice distinct)
  | graph g => exact .inr ⟨g, fun broken => broken, rfl, fun _ nothing => nothing, g.ensureValid_eq⟩

/-- The graph of a factory has its id and breaks no rule. -/
theorem checked_ok {s : Source S} {g : Graph (Routine S)} (fine : s.checked = .ok g) :
    g.id = s.id ∧ g.violations = [] := by
  rcases s.checked_cases with ⟨id, emitted, collides⟩ | ⟨made, report, named, clear, examines⟩
  · rw [collides] at fine
    cases fine
  · rw [examines] at fine
    obtain ⟨broken, examined, judged⟩ := bind_eq_ok.mp fine
    split at judged
    · rename_i nothing
      cases judged
      obtain ⟨-, found⟩ := Graph.examined_eq_ok.mp examined
      exact ⟨named, found ▸ clear broken nothing⟩
    · cases judged

/-- What is refused for broken rules breaks some. -/
theorem checked_explains (s : Source S) (id : String) : s.checked ≠ .error (.invalidGraph id []) := by
  intro refused
  rcases s.checked_cases with ⟨_, emitted, collides⟩ | ⟨made, report, -, -, examines⟩
  · rw [collides] at refused
    cases refused
  · rw [examines] at refused
    cases examined : made.examined with
    | error fault =>
        rw [examined] at refused
        cases refused
        obtain ⟨left, right, other⟩ := Graph.examined_error examined
        cases other
    | ok broken =>
        rw [examined] at refused
        simp only [Except.bind] at refused
        split at refused
        · cases refused
        · rename_i something
          have nothing : report broken = [] := by
            injection refused with same
            injection same
          exact something nothing

end Source

namespace Shelf

variable {shelf : Shelf} {path : String} {paths : List String} {sites sites' : Nat}

/-- A builder that refuses a graph says which rules it breaks. -/
def Explains (shelf : Shelf) (paths : List String) : Prop :=
  ∀ path ∈ paths, ∀ sites id, shelf.load path sites ≠ .error (.invalidGraph id [])

/-- The factories under some paths, each with its path, and each path loaded when its turn comes. -/
def loadAll (shelf : Shelf) : List String → Reading (List (String × Source Request))
  | [] => pure []
  | path :: rest => do
    let found ← shelf.load path
    let more ← shelf.loadAll rest
    pure (found.map (path, ·) ++ more)

/-! ## Checks -/

/-- The entry for a factory without a fault. -/
def passed (found : String × Source Request) : Check := ⟨found.1, some found.2.id, [], none⟩

/-- A fault that is reported makes a bad entry, unless it is a refusal without a reason. -/
theorem not_ok_of_fault {factoryId : Option String} {fault : Fault} {c : Check}
    (reported : checkOfFault path factoryId fault = .ok c) (explained : ∀ id, fault ≠ .invalidGraph id []) :
    c.ok = false := by
  unfold checkOfFault at reported
  split at reported
  · rename_i graphId violations
    cases reported
    cases violations with
    | nil => exact absurd rfl (explained graphId)
    | cons first rest => rfl
  · split at reported
    · cases reported
      rfl
    · cases reported
  · split at reported
    · cases reported
      rfl
    · cases reported

/-- A factory passes exactly if it has a graph that breaks no rule. -/
theorem checkSource_passes {s : Source Request} {c : Check} :
    checkSource path s = .ok c ∧ c.ok = true ↔ (∃ g, s.checked = .ok g) ∧ c = passed (path, s) := by
  unfold checkSource
  cases fine : s.checked with
  | ok g =>
      constructor
      · rintro ⟨⟨⟩, -⟩
        exact ⟨⟨g, rfl⟩, rfl⟩
      · rintro ⟨-, rfl⟩
        exact ⟨rfl, rfl⟩
  | error fault =>
      constructor
      · rintro ⟨reported, good⟩
        have bad := not_ok_of_fault reported fun id same => s.checked_explains id (same ▸ fine)
        rw [bad] at good
        cases good
      · rintro ⟨⟨g, ⟨⟩⟩, -⟩

theorem checkSources_pass {found : List (Source Request)} {checks : List Check} :
    found.mapM (checkSource path) = .ok checks ∧ checks.all Check.ok = true ↔
      (∀ s ∈ found, ∃ g, s.checked = .ok g) ∧ checks = (found.map (path, ·)).map passed := by
  induction found generalizing checks with
  | nil =>
      constructor
      · rintro ⟨⟨⟩, -⟩
        exact ⟨fun _ inside => absurd inside List.not_mem_nil, rfl⟩
      · rintro ⟨-, rfl⟩
        exact ⟨rfl, rfl⟩
  | cons s rest ih =>
      rw [List.mapM_cons]
      constructor
      · rintro ⟨reported, good⟩
        obtain ⟨c, first, more⟩ := bind_eq_ok.mp reported
        obtain ⟨cs, later, whole⟩ := bind_eq_ok.mp more
        cases whole
        rw [List.all_cons, Bool.and_eq_true] at good
        obtain ⟨fine, rfl⟩ := checkSource_passes.mp ⟨first, good.1⟩
        obtain ⟨all, rfl⟩ := ih.mp ⟨later, good.2⟩
        exact ⟨List.forall_mem_cons.mpr ⟨fine, all⟩, rfl⟩
      · rintro ⟨all, rfl⟩
        obtain ⟨fine, rest⟩ := List.forall_mem_cons.mp all
        obtain ⟨first, good⟩ := checkSource_passes.mpr ⟨fine, rfl⟩
        obtain ⟨later, goods⟩ := ih.mpr ⟨rest, rfl⟩
        refine ⟨bind_eq_ok.mpr ⟨_, first, bind_eq_ok.mpr ⟨_, later, rfl⟩⟩, ?_⟩
        exact Bool.and_eq_true_iff.mpr ⟨good, goods⟩

/-- The entries of a path are all good exactly if its factories are found and all pass. -/
theorem checkPath_passes {checks : List Check}
    (explained : ∀ sites id, shelf.load path sites ≠ .error (.invalidGraph id [])) :
    shelf.checkPath path sites = .ok (checks, sites') ∧ checks.all Check.ok = true ↔
      ∃ found, shelf.load path sites = .ok (found, sites') ∧ (∀ s ∈ found, ∃ g, s.checked = .ok g) ∧
        checks = (found.map (path, ·)).map passed := by
  unfold checkPath
  cases loaded : shelf.load path sites with
  | ok came =>
      obtain ⟨found, after⟩ := came
      constructor
      · rintro ⟨reported, good⟩
        cases entries : found.mapM (checkSource path) with
        | error fault =>
            simp only [entries, Except.map] at reported
            cases reported
        | ok checks' =>
            simp only [entries, Except.map] at reported
            cases reported
            exact ⟨found, rfl, checkSources_pass.mp ⟨entries, good⟩⟩
      · rintro ⟨_, ⟨⟩, all⟩
        obtain ⟨entries, good⟩ := checkSources_pass.mpr all
        refine ⟨?_, good⟩
        simp only [entries, Except.map]
  | error fault =>
      constructor
      · rintro ⟨reported, good⟩
        cases entry : checkOfFault path none fault with
        | error fault' =>
            simp only [entry, Except.map] at reported
            cases reported
        | ok c =>
            simp only [entry, Except.map] at reported
            cases reported
            have bad := not_ok_of_fault entry fun id same => explained sites id (same ▸ loaded)
            simp [bad] at good
      · rintro ⟨found, ⟨⟩, -⟩

theorem check_cons (shelf : Shelf) (path : String) (rest : List String) :
    shelf.check (path :: rest) = (do
      let first ← shelf.checkPath path
      let later ← shelf.check rest
      pure (first ++ later)) := by
  simp [check, List.mapM_cons]

/-- The entries of some paths are all good exactly if all their factories are found and pass. -/
theorem check_passes {checks : List Check} (explained : shelf.Explains paths) :
    shelf.check paths sites = .ok (checks, sites') ∧ checks.all Check.ok = true ↔
      ∃ found, shelf.loadAll paths sites = .ok (found, sites') ∧
        (∀ s ∈ found.map Prod.snd, ∃ g, s.checked = .ok g) ∧ checks = found.map passed := by
  induction paths generalizing sites checks with
  | nil =>
      constructor
      · rintro ⟨⟨⟩, -⟩
        exact ⟨[], rfl, fun _ inside => absurd inside List.not_mem_nil, rfl⟩
      · rintro ⟨_, ⟨⟩, -, rfl⟩
        exact ⟨rfl, rfl⟩
  | cons path rest ih =>
      obtain ⟨explained, others⟩ := List.forall_mem_cons.mp explained
      rw [check_cons]
      constructor
      · rintro ⟨reported, good⟩
        obtain ⟨first, middle, one, more⟩ := Reading.bind_ok.mp reported
        obtain ⟨later, after, rest', whole⟩ := Reading.bind_ok.mp more
        cases Reading.pure_ok.mp whole
        rw [List.all_append, Bool.and_eq_true] at good
        obtain ⟨found, loaded, fine, rfl⟩ := (checkPath_passes explained).mp ⟨one, good.1⟩
        obtain ⟨found', loaded', fine', rfl⟩ := (ih others).mp ⟨rest', good.2⟩
        refine ⟨found.map (path, ·) ++ found', ?_, ?_, List.map_append.symm⟩
        · exact Reading.bind_ok.mpr ⟨_, _, loaded, Reading.bind_ok.mpr ⟨_, _, loaded', rfl⟩⟩
        · intro s inside
          rw [List.map_append, List.map_map] at inside
          rcases List.mem_append.mp inside with here | there
          · exact fine s (by simpa using here)
          · exact fine' s there
      · rintro ⟨all, loads, fine, rfl⟩
        obtain ⟨found, middle, loaded, more⟩ := Reading.bind_ok.mp loads
        obtain ⟨found', after, loaded', whole⟩ := Reading.bind_ok.mp more
        cases Reading.pure_ok.mp whole
        have here : ∀ s ∈ found, ∃ g, s.checked = .ok g := fun s inside => fine s (by simp [inside])
        have there : ∀ s ∈ found'.map Prod.snd, ∃ g, s.checked = .ok g := fun s inside => fine s (by
          rw [List.map_append]
          exact List.mem_append_right _ inside)
        obtain ⟨one, good⟩ := (checkPath_passes explained).mpr ⟨found, loaded, here, rfl⟩
        obtain ⟨rest', good'⟩ := (ih others).mpr ⟨found', loaded', there, rfl⟩
        refine ⟨Reading.bind_ok.mpr ⟨_, _, one, Reading.bind_ok.mpr ⟨_, _, rest', ?_⟩⟩, ?_⟩
        · rw [List.map_append]
          rfl
        · rw [List.map_append, List.all_append, good, good']
          rfl

end Shelf

/-! ## The registry -/

namespace Registry

variable {r r' : Registry}

/-- A factory is registered exactly if it has a graph that breaks no rule and its id is new. -/
theorem register_ok {s : Source Request} :
    r.register s = .ok r' ↔ ∃ g, s.checked = .ok g ∧ g.id ∉ names r ∧ r' = r ++ [(g.id, g)] := by
  unfold register
  rw [bind_eq_ok]
  refine exists_congr fun g => and_congr_right fun _ => ?_
  by_cases taken : g.id ∈ names r
  · have there := lookup_isSome_iff.mpr taken
    simp [there, taken]
  · have free := mt lookup_isSome_iff.mp taken
    simp only [if_neg free, Except.ok.injEq, taken, not_false_eq_true, true_and]
    exact eq_comm

/-- Factories are registered exactly if each has a graph that breaks no rule and all their ids are
different and new. -/
theorem registerAll_ok {found : List (Source Request)} :
    r.registerAll found = .ok r' ↔ ∃ graphs, found.mapM Source.checked = .ok graphs ∧
      (graphs.map Graph.id).Nodup ∧ (∀ g ∈ graphs, g.id ∉ names r) ∧
      r' = r ++ graphs.map fun g => (g.id, g) := by
  induction found generalizing r with
  | nil =>
      constructor
      · rintro ⟨⟩
        exact ⟨[], rfl, .nil, fun _ inside => absurd inside List.not_mem_nil, (List.append_nil _).symm⟩
      · rintro ⟨_, ⟨⟩, -, -, rfl⟩
        exact congrArg Except.ok (List.append_nil _).symm
  | cons s rest ih =>
      unfold registerAll
      rw [bind_eq_ok, List.mapM_cons]
      constructor
      · rintro ⟨middle, one, more⟩
        obtain ⟨g, fine, new, rfl⟩ := register_ok.mp one
        obtain ⟨graphs, all, distinct, news, rfl⟩ := ih.mp more
        have apart : ∀ h ∈ graphs, h.id ∉ names r ∧ h.id ≠ g.id := by
          intro h inside
          have fresh := news h inside
          rw [names_append] at fresh
          simpa [names] using fresh
        refine ⟨g :: graphs, bind_eq_ok.mpr ⟨g, fine, bind_eq_ok.mpr ⟨graphs, all, rfl⟩⟩, ?_, ?_, by simp⟩
        · refine List.nodup_cons.mpr ⟨fun inside => ?_, distinct⟩
          obtain ⟨h, there, same⟩ := List.mem_map.mp inside
          exact (apart h there).2 same
        · exact List.forall_mem_cons.mpr ⟨new, fun h inside => (apart h inside).1⟩
      · rintro ⟨all, made, distinct, news, rfl⟩
        obtain ⟨g, fine, more⟩ := bind_eq_ok.mp made
        obtain ⟨graphs, later, whole⟩ := bind_eq_ok.mp more
        cases whole
        obtain ⟨new, others⟩ := List.forall_mem_cons.mp news
        obtain ⟨apart, distinct⟩ := List.nodup_cons.mp distinct
        refine ⟨_, register_ok.mpr ⟨g, fine, new, rfl⟩, ih.mpr ⟨graphs, later, distinct, ?_, by simp⟩⟩
        intro h inside there
        rw [names_append] at there
        rcases List.mem_append.mp there with old | one
        · exact others h inside old
        · have same : h.id = g.id := by simpa [names] using one
          exact apart (List.mem_map.mpr ⟨h, inside, same⟩)

theorem registerAll_append (first second : List (Source Request)) :
    r.registerAll (first ++ second) = r.registerAll first >>= fun r => r.registerAll second := by
  induction first generalizing r with
  | nil => rfl
  | cons s rest ih =>
      rw [List.cons_append, registerAll, registerAll]
      cases r.register s with
      | error fault => rfl
      | ok middle => exact ih

/-- Paths are loaded exactly if their factories are found and can be registered one after the other. -/
theorem ofPaths_ok {shelf : Shelf} {paths : List String} {sites sites' : Nat} :
    ofPaths shelf r paths sites = .ok (r', sites') ↔
      ∃ found, shelf.loadAll paths sites = .ok (found, sites') ∧
        r.registerAll (found.map Prod.snd) = .ok r' := by
  induction paths generalizing r sites with
  | nil =>
      constructor
      · rintro ⟨⟩
        exact ⟨[], rfl, rfl⟩
      · rintro ⟨_, ⟨⟩, ⟨⟩⟩
        rfl
  | cons path rest ih =>
      have alone : ∀ found : List (Source Request), (found.map (path, ·)).map Prod.snd = found :=
        fun found => by simp
      unfold ofPaths Shelf.loadAll
      constructor
      · intro loads
        obtain ⟨found, middle, loaded, more⟩ := Reading.bind_ok.mp loads
        obtain ⟨r₁, after, registered, later⟩ := Reading.bind_ok.mp more
        obtain ⟨_, one, ⟨⟩⟩ := Reading.ofExcept_ok.mp registered
        obtain ⟨found', loaded', others⟩ := ih.mp later
        refine ⟨found.map (path, ·) ++ found', ?_, ?_⟩
        · exact Reading.bind_ok.mpr ⟨_, _, loaded, Reading.bind_ok.mpr ⟨_, _, loaded', rfl⟩⟩
        · rw [List.map_append, alone, registerAll_append]
          exact bind_eq_ok.mpr ⟨r₁, one, others⟩
      · rintro ⟨all, loads, registered⟩
        obtain ⟨found, middle, loaded, more⟩ := Reading.bind_ok.mp loads
        obtain ⟨found', after, loaded', whole⟩ := Reading.bind_ok.mp more
        cases Reading.pure_ok.mp whole
        rw [List.map_append, alone, registerAll_append] at registered
        obtain ⟨r₁, one, others⟩ := bind_eq_ok.mp registered
        exact Reading.bind_ok.mpr ⟨_, _, loaded, Reading.bind_ok.mpr
          ⟨_, _, Reading.ofExcept_ok.mpr ⟨r₁, one, rfl⟩, ih.mpr ⟨found', loaded', others⟩⟩⟩

/-- The ids of factories that are made into graphs. -/
theorem ids_of_checked {found : List (Source Request)} {graphs : List (Graph Code)}
    (made : found.mapM Source.checked = .ok graphs) :
    graphs.map Graph.id = found.map Source.id ∧ ∀ g ∈ graphs, g.violations = [] := by
  induction found generalizing graphs with
  | nil =>
      cases made
      exact ⟨rfl, fun _ inside => absurd inside List.not_mem_nil⟩
  | cons s rest ih =>
      rw [List.mapM_cons] at made
      obtain ⟨g, fine, more⟩ := bind_eq_ok.mp made
      obtain ⟨others, later, whole⟩ := bind_eq_ok.mp more
      cases whole
      obtain ⟨same, valid⟩ := Source.checked_ok fine
      obtain ⟨ids, valids⟩ := ih later
      exact ⟨by rw [List.map_cons, List.map_cons, same, ids], List.forall_mem_cons.mpr ⟨valid, valids⟩⟩

/-- What loading comes down to: the factories are found, and each is made into a graph of its own id. -/
theorem loads {shelf : Shelf} {paths : List String} {sites sites' : Nat}
    (loaded : ofPaths shelf [] paths sites = .ok (r, sites')) :
    ∃ (found : List (String × Source Request)) (graphs : List (Graph Code)),
      shelf.loadAll paths sites = .ok (found, sites') ∧
      (∀ s ∈ found.map Prod.snd, ∃ g, s.checked = .ok g) ∧
      graphs.map Graph.id = (found.map Prod.snd).map Source.id ∧ (∀ g ∈ graphs, g.violations = []) ∧
      (graphs.map Graph.id).Nodup ∧ r = graphs.map fun g => (g.id, g) := by
  obtain ⟨found, all, registered⟩ := ofPaths_ok.mp loaded
  obtain ⟨graphs, made, distinct, -, same⟩ := registerAll_ok.mp registered
  obtain ⟨ids, valid⟩ := ids_of_checked made
  refine ⟨found, graphs, all, fun s inside => ?_, ids, valid, distinct, same⟩
  obtain ⟨g, -, checked⟩ := (mem_of_mapM made).2 s inside
  exact ⟨g, checked⟩

end Registry

namespace Shelf

variable {shelf : Shelf} {paths : List String} {sites : Nat}

/-- Some paths can be loaded into a registry exactly if their check comes to an end with good entries only,
no two of which are of one factory id. The registry then has the factories of the entries, in their order and
each under its id, with graphs that break no rule; and a shop that has the registry for its factories works
on the tasks of such an id by that graph. A builder that refuses a graph has to say why, since a refusal
without a reason makes a good entry. -/
theorem checks_agree_with_loading (shelf : Shelf) (paths : List String) (sites : Nat)
    (explained : shelf.Explains paths) :
    ((∃ r sites', Registry.ofPaths shelf [] paths sites = .ok (r, sites')) ↔
      ∃ checks sites', shelf.check paths sites = .ok (checks, sites') ∧ checks.all Check.ok = true ∧
        (checks.map Check.factoryId).Nodup) ∧
    ∀ r sites', Registry.ofPaths shelf [] paths sites = .ok (r, sites') →
      ∃ checks, shelf.check paths sites = .ok (checks, sites') ∧
        checks.map Check.factoryId = (names r).map some ∧
        ∀ c ∈ checks, ∃ id g, c.factoryId = some id ∧ r.get id = .ok g ∧ g.id = id ∧ g.violations = [] ∧
          ∀ s : Shop, s.graphs = r → (Shop.graph id).run s = (.ok g, s) := by
  have entries : ∀ found : List (String × Source Request),
      (found.map passed).map Check.factoryId = ((found.map Prod.snd).map Source.id).map some :=
    fun found => by simp [passed, Function.comp_def]
  refine ⟨⟨?_, ?_⟩, ?_⟩
  · rintro ⟨r, sites', loaded⟩
    obtain ⟨found, graphs, all, fine, ids, -, distinct, -⟩ := Registry.loads loaded
    obtain ⟨reported, good⟩ := (check_passes explained).mpr ⟨found, all, fine, rfl⟩
    refine ⟨_, _, reported, good, ?_⟩
    rw [entries, ← ids]
    exact distinct.map (Option.some_injective _)
  · rintro ⟨checks, sites', reported, good, distinct⟩
    obtain ⟨found, all, fine, rfl⟩ := (check_passes explained).mp ⟨reported, good⟩
    obtain ⟨graphs, made⟩ := Value.mapM_ok fine
    rw [entries, ← (Registry.ids_of_checked made).1] at distinct
    have new : ∀ g ∈ graphs, g.id ∉ names ([] : Registry) := fun _ _ => List.not_mem_nil
    have registered := Registry.registerAll_ok.mpr ⟨graphs, made, distinct.of_map some, new, rfl⟩
    exact ⟨_, _, Registry.ofPaths_ok.mpr ⟨found, all, registered⟩⟩
  · intro r sites' loaded
    obtain ⟨found, graphs, all, fine, ids, valid, distinct, rfl⟩ := Registry.loads loaded
    obtain ⟨reported, -⟩ := (check_passes explained).mpr ⟨found, all, fine, rfl⟩
    have named : names (graphs.map fun g => (g.id, g)) = graphs.map Graph.id := by
      simp [names, Function.comp_def]
    refine ⟨_, reported, by rw [entries, named, ids], fun c inside => ?_⟩
    obtain ⟨entry, here, rfl⟩ := List.mem_map.mp inside
    have its : entry.2.id ∈ graphs.map Graph.id := by
      rw [ids]
      exact List.mem_map_of_mem (List.mem_map_of_mem here)
    obtain ⟨g, there, own⟩ := List.mem_map.mp its
    have known : (graphs.map fun g => (g.id, g)).lookup entry.2.id = some g := by
      refine Graph.lookup_of_mem (named.symm ▸ distinct) ?_
      rw [← own]
      exact List.mem_map.mpr ⟨g, there, rfl⟩
    refine ⟨entry.2.id, g, rfl, ?_, own, valid g there, fun s factories => ?_⟩
    · unfold Registry.get
      rw [known]
    · unfold Shop.graph
      rw [Work.run_bind_get, factories, known]
      rfl

/-! ## The bundled factories -/

theorem built_bundled (name : String)
    (known : (bundled? (S := Request) name).map Except.isOk = some true) :
    ∃ g, ∀ sites, (Provided.bundledBuilder name).built sites = .ok (.source (.graph g), sites) := by
  unfold Provided.bundledBuilder
  cases made : bundled? (S := Request) name with
  | none =>
      rw [made] at known
      cases known
  | some result =>
      cases result with
      | error fault =>
          rw [made] at known
          cases known
      | ok g =>
          refine ⟨g, fun sites => ?_⟩
          simp only [Provided.built]

/-- The bundled factories are found, whatever was read before. -/
theorem bundled_loads (sites : Nat) :
    ∃ found, bundled.load "taskfactory.factories" sites = .ok (found, sites) := by
  have there : bundled.missing? (Text.split '.' "taskfactory.factories").reverse = none := by decide +kernel
  have absolute : "taskfactory.factories".startsWith "." = false := by decide +kernel
  have named : splitPath "taskfactory.factories" = ("taskfactory.factories", defaultItem) := by decide +kernel
  have imported : bundled.importModule "taskfactory.factories" = .ok (bundledFactories ++
      [("__all__", .other "str"), ("examples", .other "module")] ++ Attributes.ofPackage) := by
    unfold importModule
    rw [if_neg (by decide), absolute, there]
    rfl
  obtain ⟨review, made⟩ := built_bundled ReviewDraft.id (by decide +kernel)
  obtain ⟨magic, made'⟩ := built_bundled MagicEight.id (by decide +kernel)
  refine ⟨[.graph review, .graph magic], ?_⟩
  unfold load
  rw [named]
  refine Reading.bind_ok.mpr ⟨_, sites, Reading.ofExcept_ok.mpr ⟨_, imported, rfl⟩, ?_⟩
  refine Reading.bind_ok.mpr ⟨_, sites, rfl, Reading.bind_ok.mpr
    ⟨[.source (.graph review), .source (.graph magic)], sites, ?_, rfl⟩⟩
  have items : Provided.parts (.list [Provided.bundledBuilder ReviewDraft.id,
      Provided.bundledBuilder MagicEight.id]) = [Provided.bundledBuilder ReviewDraft.id,
      Provided.bundledBuilder MagicEight.id] := rfl
  rw [items, List.mapM_cons, List.mapM_cons, List.mapM_nil]
  refine Reading.bind_ok.mpr ⟨_, sites, made sites, Reading.bind_ok.mpr ⟨_, sites, ?_, rfl⟩⟩
  exact Reading.bind_ok.mpr ⟨_, sites, made' sites, rfl⟩

theorem bundled_explains : bundled.Explains ["taskfactory.factories"] := by
  intro path inside sites id refused
  cases List.mem_singleton.mp inside
  obtain ⟨found, loaded⟩ := bundled_loads sites
  rw [loaded] at refused
  cases refused

/-- A check that can be run shows what its entries are like. -/
theorem check_of_any {good : List Check → Bool}
    (shown : ((shelf.check paths sites).toOption.any fun came => good came.1) = true) :
    ∃ checks sites', shelf.check paths sites = .ok (checks, sites') ∧ good checks = true := by
  cases reported : shelf.check paths sites with
  | error fault =>
      rw [reported] at shown
      cases shown
  | ok came =>
      rw [reported] at shown
      exact ⟨came.1, came.2, rfl, shown⟩

/-- The bundled factories can be loaded: they pass their check under different ids. -/
theorem checks_agree_with_loading_bundled :
    bundled.Explains ["taskfactory.factories"] ∧
      ∃ r sites', Registry.ofPaths bundled [] ["taskfactory.factories"] 0 = .ok (r, sites') := by
  have passes : ∃ checks sites', bundled.check ["taskfactory.factories"] 0 = .ok (checks, sites') ∧
      (checks.all Check.ok && decide (checks.map Check.factoryId).Nodup) = true :=
    check_of_any (by decide +kernel)
  obtain ⟨checks, sites', reported, good⟩ := passes
  rw [Bool.and_eq_true, decide_eq_true_eq] at good
  exact ⟨bundled_explains, (checks_agree_with_loading bundled ["taskfactory.factories"] 0
    bundled_explains).1.mpr ⟨checks, sites', reported, good⟩⟩

/-- Good entries are not enough: of two paths that lead to one factory every entry is good, but the second
one is refused when they are loaded. -/
theorem check_overlooks_duplicates :
    (∃ checks sites', bundled.check
        ["taskfactory.factories", "taskfactory.factories:build_review_draft"] 0 = .ok (checks, sites') ∧
      checks.all Check.ok = true) ∧
    ¬ ∃ r sites', Registry.ofPaths bundled []
      ["taskfactory.factories", "taskfactory.factories:build_review_draft"] 0 = .ok (r, sites') := by
  refine ⟨check_of_any (by decide +kernel), ?_⟩
  rintro ⟨r, sites', loaded⟩
  have refused : (Registry.ofPaths bundled []
      ["taskfactory.factories", "taskfactory.factories:build_review_draft"] 0).isOk = false := by
    decide +kernel
  rw [loaded] at refused
  cases refused

end Shelf

end Tickwork
