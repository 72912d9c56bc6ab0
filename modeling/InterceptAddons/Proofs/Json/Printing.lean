import InterceptAddons.Json.Printer
import InterceptAddons.Proofs.Json.Spelling

/-!
# What is printed

Main statement: `renders_printLines`, a value without numbers is printed as a text that renders its symbols. A stretch
of the text prints some symbols (`Prints`) if it renders them in front of whatever is rendered behind it, so that
stretches are put together with `Prints.append`.
-/

namespace InterceptAddons.Json

open InterceptAddons.Text

/-! ### Stretches of text -/

/-- A stretch of text prints symbols, whatever is rendered behind it. -/
def Prints (xs : List Symbol) (cs : List Char) : Prop :=
  ∀ ys rest, Renders ys rest → Renders (xs ++ ys) (cs ++ rest)

theorem Prints.append {xs ys : List Symbol} {cs ds : List Char} (hx : Prints xs cs) (hy : Prints ys ds) :
    Prints (xs ++ ys) (cs ++ ds) := by
  intro zs rest h
  rw [List.append_assoc, List.append_assoc]
  exact hx _ _ (hy _ _ h)

theorem Symbol.Spells.prints {x : Symbol} {t : List Char} (h : x.Spells t) : Prints [x] t :=
  fun _ _ hrest => .symbol h hrest

theorem prints_spaces {cs : List Char} (h : ∀ c ∈ cs, c ∈ spaces) : Prints [] cs := by
  intro ys rest hrest
  induction cs with
  | nil => exact hrest
  | cons c cs ih => exact .space (h c List.mem_cons_self) (ih fun c hc => h c (List.mem_cons_of_mem _ hc))

/-- A layout that puts white space, commas and colons where they belong. -/
structure Layout.IsPlain (l : Layout) : Prop where
  first : Prints [] l.first
  between : Prints [.comma] l.between
  last : Prints [] l.last
  afterKey : Prints [.colon] l.afterKey

theorem isPlain_lines (level : Nat) : (Layout.lines level).IsPlain := by
  have hblank : ∀ n, ∀ c ∈ '\n' :: List.replicate n ' ', c ∈ spaces := by
    intro n c hc
    rcases List.mem_cons.1 hc with rfl | hc
    · decide
    · rw [List.eq_of_mem_replicate hc]
      decide
  have hone : ∀ c ∈ [' '], c ∈ spaces := by
    intro c hc
    rw [List.mem_singleton.1 hc]
    decide
  refine ⟨prints_spaces (hblank _), ?_, prints_spaces (hblank _), ?_⟩
  · exact Symbol.Spells.comma.prints.append (prints_spaces (hblank (2 * (level + 1))))
  · exact Symbol.Spells.colon.prints.append (prints_spaces hone)

/-- A character stands in a printed string as itself or behind a backslash. -/
theorem quotes_stringChar (c : Char) {cs s : List Char} (h : Quotes cs s) :
    Quotes (stringChar c ++ cs) (c :: s) := by
  unfold stringChar
  split
  · exact .short (by decide) h
  · exact .short (by decide) h
  · exact .short (by decide) h
  · exact .short (by decide) h
  · exact .short (by decide) h
  · exact .short (by decide) h
  · exact .short (by decide) h
  · next hquote hslash _ _ _ _ _ =>
    by_cases hcontrol : c.toNat < 0x20
    · rw [if_pos hcontrol]
      have hdigits : ∀ n < 0x20,
          digitsValue? 16 0 ['0', '0', Nat.digitChar (n / 16), Nat.digitChar (n % 16)] = some n := by decide
      exact .unit ⟨'0', '0', _, _, hdigits c.toNat hcontrol⟩ h
    · rw [if_neg hcontrol]
      exact .plain hquote hslash (by omega) h

theorem quotes_flatMap (s : List Char) : Quotes (s.flatMap stringChar) s := by
  induction s with
  | nil => exact .nil
  | cons c s ih => exact quotes_stringChar c ih

theorem prints_string (s : String) : Prints [.string s] (stringChars s) :=
  (Symbol.Spells.string (quotes_flatMap s.toList)).prints

theorem prints_joined {l : Layout} (hl : l.IsPlain) {xss : List (List Symbol)} {css : List (List Char)}
    (h : List.Forall₂ Prints xss css) : Prints (joined xss) (l.join css) := by
  cases h with
  | nil => exact fun _ _ hrest => hrest
  | @cons xs cs xss css hhead htail =>
    have hbetween : Prints (xss.flatMap (.comma :: ·)) (css.flatMap (l.between ++ ·)) := by
      clear hhead
      induction htail with
      | nil => exact fun _ _ hrest => hrest
      | cons hitem _ ih => exact (hl.between.append hitem).append ih
    have hall := ((hl.first.append hhead).append hbetween).append hl.last
    rw [List.append_nil] at hall
    exact hall

theorem mem_joined {xss : List (List Symbol)} {xs : List Symbol} (hxs : xs ∈ xss) {x : Symbol} (hx : x ∈ xs) :
    x ∈ joined xss := by
  cases xss with
  | nil => cases hxs
  | cons ys xss =>
    rcases List.mem_cons.1 hxs with rfl | hxs
    · exact List.mem_append_left _ hx
    · exact List.mem_append_right _ (List.mem_flatMap.2 ⟨xs, hxs, List.mem_cons_of_mem _ hx⟩)

/-- Only commas stand between items. -/
theorem mem_of_mem_joined {xss : List (List Symbol)} {x : Symbol} (h : x ∈ joined xss) :
    x = .comma ∨ ∃ xs ∈ xss, x ∈ xs := by
  cases xss with
  | nil => cases h
  | cons xs xss =>
    rcases List.mem_append.1 h with hx | hx
    · exact .inr ⟨xs, List.mem_cons_self, hx⟩
    · obtain ⟨ys, hys, hx⟩ := List.mem_flatMap.1 hx
      rcases List.mem_cons.1 hx with rfl | hx
      · exact .inl rfl
      · exact .inr ⟨ys, List.mem_cons_of_mem _ hys, hx⟩

theorem symbolsOfItems_eq_map (vs : List Value) : symbolsOfItems vs = vs.map Value.symbols := by
  induction vs with
  | nil => rfl
  | cons v vs ih => rw [symbolsOfItems, ih, List.map_cons]

mutual

/-- **A printed value** renders its symbols, if there are no numbers in it. -/
theorem prints_value {layout : Nat → Layout} (hl : ∀ n, (layout n).IsPlain) : ∀ (v : Value) (level : Nat),
    (∀ n, .number n ∉ v.symbols) → Prints v.symbols (v.charsWith layout level)
  | .null, _, _ => Symbol.Spells.null.prints
  | .bool .true, _, _ => Symbol.Spells.true.prints
  | .bool .false, _, _ => Symbol.Spells.false.prints
  | .number n, _, h => absurd List.mem_cons_self (h n)
  | .string s, _, _ => prints_string s
  | .array items, level, h => by
    have hitems := prints_items hl items (level + 1) fun xs hxs n hn =>
      h n (List.mem_cons_of_mem _ (List.mem_append_left _ (mem_joined hxs hn)))
    exact (Symbol.Spells.beginArray.prints.append (prints_joined (hl level) hitems)).append
      Symbol.Spells.endArray.prints
  | .object members, level, h => by
    have hmembers := prints_members hl members (level + 1) (hl level).afterKey fun xs hxs n hn =>
      h n (List.mem_cons_of_mem _ (List.mem_append_left _ (mem_joined hxs hn)))
    exact (Symbol.Spells.beginObject.prints.append (prints_joined (hl level) hmembers)).append
      Symbol.Spells.endObject.prints

theorem prints_items {layout : Nat → Layout} (hl : ∀ n, (layout n).IsPlain) : ∀ (vs : List Value) (level : Nat),
    (∀ xs ∈ symbolsOfItems vs, ∀ n, .number n ∉ xs) →
      List.Forall₂ Prints (symbolsOfItems vs) (charsOfItems layout level vs)
  | [], _, _ => .nil
  | v :: vs, level, h => by
    have hhead := prints_value hl v level (h _ List.mem_cons_self)
    have htail := prints_items hl vs level fun xs hxs => h xs (List.mem_cons_of_mem _ hxs)
    exact .cons hhead htail

theorem prints_members {layout : Nat → Layout} (hl : ∀ n, (layout n).IsPlain) :
    ∀ (ms : List (String × Value)) (level : Nat) {afterKey : List Char}, Prints [.colon] afterKey →
      (∀ xs ∈ symbolsOfMembers ms, ∀ n, .number n ∉ xs) →
      List.Forall₂ Prints (symbolsOfMembers ms) (charsOfMembers layout level afterKey ms)
  | [], _, _, _, _ => .nil
  | (k, v) :: ms, level, afterKey, hkey, h => by
    have hv := prints_value hl v level fun n hn =>
      h _ List.mem_cons_self n (List.mem_cons_of_mem _ (List.mem_cons_of_mem _ hn))
    have htail := prints_members hl ms level hkey fun xs hxs => h xs (List.mem_cons_of_mem _ hxs)
    exact .cons (((prints_string k).append hkey).append hv) htail

end

theorem renders_printLines (v : Value) (h : ∀ n, .number n ∉ v.symbols) : Renders v.symbols v.printLines.toList := by
  have hprints := prints_value isPlain_lines v 0 h [] [] .nil
  rw [List.append_nil, List.append_nil] at hprints
  rw [Value.printLines, String.toList_ofList]
  exact hprints

end InterceptAddons.Json
