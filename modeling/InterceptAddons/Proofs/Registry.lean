import InterceptAddons.Registry

/-!
# Loading and unloading

What a registry writes when it is loaded and when it is unloaded, declaration by declaration. `Leaves` says what a
callback that runs once leaves in the log. Main statements: `unloadRecords_load`, unloading cleans up every loaded addon
once, in the order of the declarations, and nothing else; `loadRecords_eq`, only loaded addons are initialised;
`filter_loadRecords`, no other callback runs.
-/

namespace InterceptAddons

variable {ν : Type}

/-! ### Callbacks outside of traffic -/

/-- What a callback of an addon leaves in the log when it runs once: its notes, in order, and behind them its failure if
it fails. A callback that is not set leaves nothing. -/
inductive Leaves (addon : AddonId) (stage : Stage) : Option (Lifecycle ν) → List (Record ν) → Prop
  | unset : Leaves addon stage none []
  | done (notes : List ν) : Leaves addon stage (some ⟨notes, none⟩) (notes.map fun n => .remark (.host n))
  | failed (notes : List ν) (f : Failure) : Leaves addon stage (some ⟨notes, some f⟩)
    ((notes.map fun n => .remark (.host n)) ++ [.lifecycleFailed addon stage f])

theorem leaves_runStage (l : Option (Lifecycle ν)) (addon : AddonId) (stage : Stage) :
    Leaves addon stage l (runStage l addon stage) := by
  match l with
  | none => exact .unset
  | some ⟨notes, none⟩ =>
    have hrun : runStage (some ⟨notes, none⟩) addon stage = notes.map fun n => .remark (.host n) := List.append_nil _
    rw [hrun]
    exact .done notes
  | some ⟨notes, some f⟩ => exact .failed notes f

/-- Whether a record comes from a callback outside of traffic. -/
def Record.ofCallback : Record ν → Bool
  | .remark (.host _) | .lifecycleFailed _ _ _ => true
  | _ => false

theorem Leaves.ofCallback {addon : AddonId} {stage : Stage} {l : Option (Lifecycle ν)} {rs : List (Record ν)}
    (h : Leaves addon stage l rs) : ∀ x ∈ rs, x.ofCallback = true := by
  have hnotes (notes : List ν) : ∀ x ∈ notes.map fun n => (.remark (.host n) : Record ν), x.ofCallback = true :=
    List.forall_mem_map.2 fun _ _ => rfl
  cases h with
  | unset => exact List.forall_mem_nil _
  | done notes => exact hnotes notes
  | failed notes f => exact List.forall_mem_append.2 ⟨hnotes notes, List.forall_mem_singleton.2 rfl⟩

theorem ofCallback_of_mem_runStage {l : Option (Lifecycle ν)} {a : AddonId} {stage : Stage} {x : Record ν}
    (hx : x ∈ runStage l a stage) : x.ofCallback = true :=
  (leaves_runStage l a stage).ofCallback x hx

/-! ### Declarations -/

namespace Sorted

/-- What is written when a declaration is initialised. -/
def init : Sorted ν → List (Record ν)
  | .loaded a => runStage a.onInit a.id .init
  | _ => []

/-- What is written about a declaration once it is sorted. -/
def report : Sorted ν → Record ν
  | .disabled id => .addonDisabled id
  | .rejected e => .addonRejected e
  | .loaded a => .addonLoaded a.id a.requestFilter.print a.responseFilter.print

/-- What is written when a declaration is cleaned up. -/
def cleanup : Sorted ν → List (Record ν)
  | .loaded a => runStage a.onCleanup a.id .cleanup
  | _ => []

theorem records_eq (x : Sorted ν) : x.records = x.init ++ [x.report] := by
  cases x <;> rfl

/-- Declarations that are not loaded are neither initialised nor cleaned up. -/
theorem init_cleanup_of_not_loaded {x : Sorted ν} (h : x.addon? = none) : x.init = [] ∧ x.cleanup = [] := by
  cases x with
  | loaded a => cases h
  | disabled | rejected => exact ⟨rfl, rfl⟩

end Sorted

namespace Registry

theorem loadRecords_eq (g : Nat) (specs : List (AddonSpec ν)) (overrides : List AddonOverride) :
    loadRecords g specs overrides =
      [.loading g] ++ (sortAll overrides specs).flatMap (fun x => x.init ++ [x.report]) ++
        (unmatched overrides specs).map (fun o => .overrideUnmatched o.id) ++
        [.registryLoaded g (load g specs overrides).addons.length
          (load g specs overrides).rejected.length] := by
  rw [loadRecords, funext Sorted.records_eq]

/-- What the loaded addons write in turn, declaration by declaration. -/
theorem flatMap_addons (xs : List (Sorted ν)) {f : Addon ν → List (Record ν)} {g : Sorted ν → List (Record ν)}
    (hf : ∀ a, g (.loaded a) = f a) (hg : ∀ x, x.addon? = none → g x = []) :
    (xs.filterMap Sorted.addon?).flatMap f = xs.flatMap g := by
  induction xs with
  | nil => rfl
  | cons x xs ih =>
    cases x with
    | loaded a =>
      rw [List.flatMap_cons, hf, ← ih]
      rfl
    | disabled | rejected =>
      rw [List.flatMap_cons, hg _ rfl]
      exact ih

theorem flatMap_init (xs : List (Sorted ν)) :
    (xs.filterMap Sorted.addon?).flatMap (fun a => runStage a.onInit a.id .init) = xs.flatMap Sorted.init :=
  flatMap_addons xs (fun _ => rfl) fun _ hx => (Sorted.init_cleanup_of_not_loaded hx).1

end Registry

/-! ### Which callbacks run -/

theorem Sorted.filter_init_report (x : Sorted ν) :
    (x.init ++ [x.report]).filter Record.ofCallback = x.init := by
  cases x with
  | loaded a =>
    have hinit : (runStage a.onInit a.id .init).filter Record.ofCallback = runStage a.onInit a.id .init :=
      List.filter_eq_self.2 fun _ hx => ofCallback_of_mem_runStage hx
    rw [List.filter_append, Sorted.init, hinit]
    exact List.append_nil _
  | disabled | rejected => rfl

/-- The callbacks that run while declarations are loaded are those that initialise the loaded addons, each once and
in order. -/
theorem Registry.filter_loadRecords (g : Nat) (specs : List (AddonSpec ν)) (overrides : List AddonOverride) :
    (loadRecords g specs overrides).filter Record.ofCallback =
      (load g specs overrides).addons.flatMap fun a => runStage a.onInit a.id .init := by
  have hsorted : ((sortAll overrides specs).flatMap fun x => x.init ++ [x.report]).filter Record.ofCallback =
      (sortAll overrides specs).flatMap Sorted.init := by
    rw [List.filter_flatMap, funext Sorted.filter_init_report]
  have hunmatched : ((unmatched overrides specs).map fun o => (.overrideUnmatched o.id : Record ν)).filter
      Record.ofCallback = [] := by
    rw [List.filter_eq_nil_iff]
    intro x hx
    obtain ⟨o, -, rfl⟩ := List.mem_map.1 hx
    exact Bool.false_ne_true
  rw [loadRecords_eq, load, flatMap_init, List.filter_append, List.filter_append, List.filter_append, hsorted,
    hunmatched, List.append_nil]
  exact List.append_nil _

/-! ### Unloadings among records -/

def Record.unloads (g : Nat) : Record ν → Bool
  | .registryUnloaded g' => g' == g
  | _ => false

def Record.ofLifecycle : Record ν → Bool
  | .loading _ | .addonDisabled _ | .addonRejected _ | .addonLoaded _ _ _ | .overrideUnmatched _
  | .registryLoaded _ _ _ | .registryUnloaded _ | .lifecycleFailed _ _ _ => true
  | _ => false

theorem unloads_of_ofCallback {x : Record ν} (h : x.ofCallback = true) (g : Nat) : x.unloads g = false := by
  cases x <;> first | rfl | cases h

/-- How often the registry of a generation is unloaded. -/
def unloadings (g : Nat) (rs : List (Record ν)) : Nat := rs.countP (·.unloads g)

@[simp] theorem unloadings_append (g : Nat) (rs rs' : List (Record ν)) :
    unloadings g (rs ++ rs') = unloadings g rs + unloadings g rs' := List.countP_append

theorem unloadings_eq_zero {g : Nat} {rs : List (Record ν)} :
    unloadings g rs = 0 ↔ ∀ x ∈ rs, x.unloads g = false := by
  simp [unloadings, List.countP_eq_zero]

theorem unloads_of_not_ofLifecycle {x : Record ν} (h : x.ofLifecycle = false) (g : Nat) :
    x.unloads g = false := by
  cases x <;> first | rfl | cases h

theorem unloadings_runStage (g : Nat) (l : Option (Lifecycle ν)) (a : AddonId) (stage : Stage) :
    unloadings g (runStage l a stage) = 0 :=
  unloadings_eq_zero.2 fun _ hx => unloads_of_ofCallback (ofCallback_of_mem_runStage hx) g

theorem unloadings_loadRecords (g g' : Nat) (specs : List (AddonSpec ν)) (overrides : List AddonOverride) :
    unloadings g (Registry.loadRecords g' specs overrides) = 0 := by
  have hsorted : unloadings g ((sortAll overrides specs).flatMap Sorted.records) = 0 := by
    rw [unloadings_eq_zero]
    intro x hx
    obtain ⟨y, -, hy⟩ := List.mem_flatMap.1 hx
    rw [Sorted.records_eq] at hy
    rcases List.mem_append.1 hy with hy | hy
    · cases y with
      | loaded a => exact unloadings_eq_zero.1 (unloadings_runStage g a.onInit a.id .init) x hy
      | disabled | rejected => cases hy
    · rw [List.mem_singleton.1 hy]
      cases y <;> rfl
  have hunmatched : unloadings g
      ((unmatched overrides specs).map fun o => (.overrideUnmatched o.id : Record ν)) = 0 := by
    rw [unloadings_eq_zero]
    intro x hx
    obtain ⟨o, -, rfl⟩ := List.mem_map.1 hx
    rfl
  simp only [Registry.loadRecords, unloadings_append, hsorted, hunmatched]
  rfl

theorem unloadings_unloadRecords (g : Nat) (r : Registry ν) :
    unloadings g r.unloadRecords = if r.generation = g then 1 else 0 := by
  have hcleanup : unloadings g (r.addons.flatMap fun a => runStage a.onCleanup a.id .cleanup) = 0 := by
    rw [unloadings_eq_zero]
    intro x hx
    obtain ⟨a, -, ha⟩ := List.mem_flatMap.1 hx
    exact unloadings_eq_zero.1 (unloadings_runStage g a.onCleanup a.id .cleanup) x ha
  rw [Registry.unloadRecords, unloadings_append, hcleanup, Nat.zero_add]
  simp [unloadings, Record.unloads, List.countP_cons]

end InterceptAddons
