import InterceptAddons.Config.Document
import InterceptAddons.Proofs.Json.Printing
import InterceptAddons.Proofs.Json.Records

/-!
# Configurations in any spelling

`EngineConfig.Spelled c text` says that a text is a way to write `c`: members stand in any order, those with their
default value may be left out, an absent filter may be null, members of other names may stand among them, and white
space between any two symbols. Main statement: `EngineConfig.read_spelled`, a printed configuration is one of these
texts, and each of them is read as the configuration.
-/

namespace InterceptAddons

open Json

/-! ### How configurations are written -/

/-- How the members of the switches are written. -/
def DispatchOptions.slots (o : DispatchOptions) : List Slot := [
  { name := "active", Holds := (· = .bool o.isActive), mayLack := o.isActive = true },
  { name := "in_scope_only", Holds := (· = .bool o.inScopeOnly), mayLack := o.inScopeOnly = false },
  { name := "proxy_only", Holds := (· = .bool o.proxyOnly), mayLack := o.proxyOnly = false }]

/-- A filter text as a value, null for none. -/
def filterValue (text : Option String) : Value := text.elim .null .string

def AddonOverride.slots (o : AddonOverride) : List Slot := [
  { name := "id", Holds := (· = .string o.id), mayLack := False },
  { name := "enabled", Holds := (· = .bool o.isEnabled), mayLack := o.isEnabled = true },
  { name := "request_filter", Holds := (· = filterValue o.requestFilter), mayLack := o.requestFilter = none },
  { name := "response_filter", Holds := (· = filterValue o.responseFilter), mayLack := o.responseFilter = none }]

/-- An array of adjustments, in order. -/
def WritesAddons (os : List AddonOverride) (v : Value) : Prop :=
  ∃ vs, List.Forall₂ (fun o v => Slot.Writes o.slots v) os vs ∧ v = .array vs

def EngineConfig.slots (c : EngineConfig) : List Slot := [
  { name := "options", Holds := Slot.Writes c.options.slots, mayLack := c.options = {} },
  { name := "addons", Holds := WritesAddons c.addons, mayLack := c.addons = [] }]

/-- A text that writes a configuration. -/
def EngineConfig.Spelled (c : EngineConfig) (text : String) : Prop :=
  ∃ v, Slot.Writes c.slots v ∧ Renders v.symbols text.toList

/-! ### Reading single members -/

/-- A field that keeps its default until its member comes. -/
def arrived {α : Type} (seen : List String) (name : String) (value default : α) : α :=
  if name ∈ seen then value else default

section arrived

variable {α : Type} {seen : List String} {name other : String} {value default : α}

@[simp] theorem arrived_nil : arrived [] name value default = default := if_neg (by simp)

@[simp] theorem arrived_cons_self : arrived (name :: seen) name value default = value :=
  if_pos List.mem_cons_self

theorem arrived_cons_of_ne (h : name ≠ other) :
    arrived (other :: seen) name value default = arrived seen name value default := by
  simp [arrived, h]

/-- A field whose member came, or could be left out, has its value. -/
theorem arrived_eq (h : name ∈ seen ∨ value = default) : arrived seen name value default = value := by
  by_cases hname : name ∈ seen
  · exact if_pos hname
  · rw [arrived, if_neg hname, h.resolve_left hname]

end arrived

theorem toText?_of_filterValue {d : Draft} {text : Option String} (h : d.Denotes (filterValue text)) :
    d.toText? = .ok text := by
  cases text with
  | none =>
    cases h
    rfl
  | some s =>
    cases h with
    | string hs => exact congrArg (Except.map some) hs

/-! ### Reading records -/

/-- The switches as their members come. -/
def DispatchOptions.stages (o : DispatchOptions) : Stages DispatchOptions.fields o.slots {} o where
  after seen := {
    isActive := arrived seen "active" o.isActive true
    inScopeOnly := arrived seen "in_scope_only" o.inScopeOnly false
    proxyOnly := arrived seen "proxy_only" o.proxyOnly false }
  names_nodup := by simp [Slot.names, DispatchOptions.slots]
  reads := by
    refine .cons ⟨rfl, nofun, ?_⟩ (.cons ⟨rfl, nofun, ?_⟩ (.cons ⟨rfl, nofun, ?_⟩ .nil))
    all_goals
      rintro d v rfl hd seen
      simp [toBool_of_denotes hd, Except.map, arrived_cons_of_ne]
  after_nil := by simp
  after_eq seen h := by
    simp only [DispatchOptions.slots, List.forall_mem_cons] at h
    obtain ⟨hactive, hscope, hproxy, -⟩ := h
    rw [arrived_eq hactive, arrived_eq hscope, arrived_eq hproxy]

def AddonOverride.stages (o : AddonOverride) : Stages AddonOverride.fields o.slots { id := "" } o where
  after seen := {
    id := arrived seen "id" o.id ""
    isEnabled := arrived seen "enabled" o.isEnabled true
    requestFilter := arrived seen "request_filter" o.requestFilter none
    responseFilter := arrived seen "response_filter" o.responseFilter none }
  names_nodup := by simp [Slot.names, AddonOverride.slots]
  reads := by
    refine .cons ⟨rfl, fun _ => not_false, ?_⟩ (.cons ⟨rfl, nofun, ?_⟩ (.cons ⟨rfl, nofun, ?_⟩
      (.cons ⟨rfl, nofun, ?_⟩ .nil)))
    · rintro d v rfl hd seen
      simp [toText_of_denotes hd, Except.map, arrived_cons_of_ne]
    · rintro d v rfl hd seen
      simp [toBool_of_denotes hd, Except.map, arrived_cons_of_ne]
    · rintro d v rfl hd seen
      simp [toText?_of_filterValue hd, Except.map, arrived_cons_of_ne]
    · rintro d v rfl hd seen
      simp [toText?_of_filterValue hd, Except.map, arrived_cons_of_ne]
  after_nil := by simp
  after_eq seen h := by
    simp only [AddonOverride.slots, List.forall_mem_cons] at h
    obtain ⟨hid, henabled, hrequest, hresponse, -⟩ := h
    rw [arrived_eq (hid.imp_right False.elim), arrived_eq henabled, arrived_eq hrequest, arrived_eq hresponse]

def EngineConfig.stages (c : EngineConfig) : Stages EngineConfig.fields c.slots {} c where
  after seen := {
    options := arrived seen "options" c.options {}
    addons := arrived seen "addons" c.addons [] }
  names_nodup := by simp [Slot.names, EngineConfig.slots]
  reads := by
    refine .cons ⟨rfl, nofun, ?_⟩ (.cons ⟨rfl, nofun, ?_⟩ .nil)
    · intro d v hv hd seen
      simp [c.options.stages.toRecord_eq hv hd, Except.map, arrived_cons_of_ne]
    · rintro d _ ⟨vs, hvs, rfl⟩ hd seen
      have haddons := toList_of_denotes (fun hv hd => (AddonOverride.stages _).toRecord_eq hv hd) hvs hd
      simp [haddons, Except.map, arrived_cons_of_ne]
  after_nil := by simp
  after_eq seen h := by
    simp only [EngineConfig.slots, List.forall_mem_cons] at h
    obtain ⟨hoptions, haddons, -⟩ := h
    rw [arrived_eq hoptions, arrived_eq haddons]

/-! ### What is printed -/

theorem DispatchOptions.writes_toValue (o : DispatchOptions) : Slot.Writes o.slots o.toValue :=
  Slot.writes_of_fill (.write rfl (.write rfl (.write rfl .nil)))

theorem AddonOverride.writes_toValue (o : AddonOverride) : Slot.Writes o.slots o.toValue := by
  refine Slot.writes_of_fill (.write rfl (.write rfl ?_))
  obtain ⟨id, isEnabled, request, response⟩ := o
  cases request with
  | none =>
    cases response with
    | none => exact .leave rfl (.leave rfl .nil)
    | some s => exact .leave rfl (.write rfl .nil)
  | some r =>
    cases response with
    | none => exact .write rfl (.leave rfl .nil)
    | some s => exact .write rfl (.write rfl .nil)

theorem EngineConfig.writes_toValue (c : EngineConfig) : Slot.Writes c.slots c.toValue := by
  have haddons : List.Forall₂ (fun o v => Slot.Writes o.slots v) c.addons (c.addons.map AddonOverride.toValue) := by
    rw [List.forall₂_map_right_iff, List.forall₂_same]
    exact fun o _ => o.writes_toValue
  exact Slot.writes_of_fill (.write c.options.writes_toValue (.write ⟨_, haddons, rfl⟩ .nil))

/-! Nothing in a configuration is a number. -/

theorem DispatchOptions.number_notMem (o : DispatchOptions) (n : Number) : .number n ∉ o.toValue.symbols := by
  simp [DispatchOptions.toValue, Value.symbols, symbolsOfMembers]

theorem AddonOverride.number_notMem (o : AddonOverride) (n : Number) : .number n ∉ o.toValue.symbols := by
  obtain ⟨id, isEnabled, request, response⟩ := o
  cases request <;> cases response <;>
    simp [AddonOverride.toValue, optionalMember, Value.symbols, symbolsOfMembers]

theorem EngineConfig.number_notMem (c : EngineConfig) (n : Number) : .number n ∉ c.toValue.symbols := by
  have hoptions := c.options.number_notMem n
  have haddons : .number n ∉ joined (symbolsOfItems (c.addons.map AddonOverride.toValue)) := by
    intro h
    rw [symbolsOfItems_eq_map, List.map_map] at h
    obtain hcomma | ⟨xs, hxs, hn⟩ := mem_of_mem_joined h
    · cases hcomma
    · obtain ⟨o, -, rfl⟩ := List.mem_map.1 hxs
      exact o.number_notMem n hn
  simp [EngineConfig.toValue, Value.symbols, symbolsOfMembers, hoptions, haddons]

/-! ### Round trip -/

theorem EngineConfig.spelled_print (c : EngineConfig) : c.Spelled c.print :=
  ⟨c.toValue, c.writes_toValue, renders_printLines c.toValue c.number_notMem⟩

theorem EngineConfig.read_of_spelled {c : EngineConfig} {text : String} (h : c.Spelled text) :
    EngineConfig.read text = .ok c := by
  obtain ⟨v, hv, hrenders⟩ := h
  obtain ⟨d, hd, hread⟩ := read_of_renders hrenders
  rw [EngineConfig.read, hread, Document.decode, c.stages.toRecord_eq hv hd]
  rfl

/-- **A configuration is read from whatever way it is written in**, what is printed for it among them. -/
theorem EngineConfig.read_spelled (c : EngineConfig) :
    EngineConfig.read c.print = .ok c ∧ c.Spelled c.print ∧
      ∀ text, c.Spelled text → EngineConfig.read text = .ok c :=
  ⟨read_of_spelled c.spelled_print, c.spelled_print, fun _ => read_of_spelled⟩

/-- Members in another order and one of another name, an absent filter as null, and no switches. -/
theorem EngineConfig.read_spelled_sparse :
    EngineConfig.Spelled { addons := [{ id := "a", isEnabled := false }] }
        "\x7b\"addons\": [\x7b\"enabled\":false,\"request_filter\":null,\"note\":\"b\",\"id\":\"a\"\x7d]\x7d" ∧
      EngineConfig.read
          "\x7b\"addons\": [\x7b\"enabled\":false,\"request_filter\":null,\"note\":\"b\",\"id\":\"a\"\x7d]\x7d" =
        .ok { addons := [{ id := "a", isEnabled := false }] } := by
  refine (and_iff_left_of_imp ((EngineConfig.read_spelled _).2.2 _)).2 ?_
  have hwrites : Slot.Writes (AddonOverride.slots { id := "a", isEnabled := false })
      (.object [("enabled", .bool false), ("request_filter", .null), ("note", .string "b"), ("id", .string "a")]) := by
    refine ⟨[("id", .string "a"), ("enabled", .bool false), ("request_filter", .null)], [("note", .string "b")], _,
      .write rfl (.write rfl (.write rfl (.leave rfl .nil))), ?_, List.perm_append_singleton _ [_, _, _], rfl⟩
    simp [Slot.IsForeign, Slot.names, AddonOverride.slots, Value.IsAtom]
  refine ⟨_, Slot.writes_of_fill (.leave rfl (.write ⟨_, .cons hwrites .nil, rfl⟩ .nil)), ?_⟩
  -- the text, symbol by symbol, with one space in it
  have hrenders := Renders.symbol .beginObject (.symbol (.string (quotes_flatMap "addons".toList))
    (.symbol .colon (.space (c := ' ') (by decide) (.symbol .beginArray (.symbol .beginObject (.symbol
    (.string (quotes_flatMap "enabled".toList)) (.symbol .colon (.symbol .false (.symbol .comma (.symbol
    (.string (quotes_flatMap "request_filter".toList)) (.symbol .colon (.symbol .null (.symbol .comma (.symbol
    (.string (quotes_flatMap "note".toList)) (.symbol .colon (.symbol (.string (quotes_flatMap "b".toList))
    (.symbol .comma (.symbol (.string (quotes_flatMap "id".toList)) (.symbol .colon (.symbol
    (.string (quotes_flatMap "a".toList)) (.symbol .endObject (.symbol .endArray
    (.symbol .endObject .nil)))))))))))))))))))))))
  exact hrenders

end InterceptAddons
