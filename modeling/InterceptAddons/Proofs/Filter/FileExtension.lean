import InterceptAddons.Proofs.Filter.Arguments
import InterceptAddons.Proofs.Text.Split

/-!
# File extensions

The predicate `file-ext-eq` looks for its arguments at the end of a file name; `Request.fileExtension?` cuts the name
at its last dot. Main statement: `eval_fileExtension`, what the predicate answers in general, and that it asks for the
extension of the request as long as no argument holds a dot of its own.
-/

namespace InterceptAddons.Filter

open Http Text

/-! ### File names -/

def undotted : List Char → List Char
  | '.' :: cs => cs
  | cs => cs

/-- The file name of a path: what stands behind the last slash, or all of it. -/
def IsFileOf (file path : List Char) : Prop := '/' ∉ file ∧ (path = file ∨ ∃ folder, path = folder ++ '/' :: file)

theorem isFileOf_file (r : Request) : IsFileOf r.file r.uri.path := afterLast_eq_iff.1 rfl

theorem IsFileOf.eq_file {file : List Char} {r : Request} (h : IsFileOf file r.uri.path) : r.file = file :=
  afterLast_eq_iff.2 h

theorem hasExtension_iff {file : List Char} {ext : String} :
    hasExtension file ext = true ↔ ∃ stem, file = stem ++ '.' :: undotted ext.toList := by
  have hshape : hasExtension file ext =
      (dropEnd? (undotted ext.toList) file).any fun stem => stem.getLast? == some '.' := by
    unfold hasExtension undotted
    rfl
  rw [hshape, Option.any_eq_true]
  simp only [dropEnd?_eq_some_iff, beq_iff_eq, List.getLast?_eq_some_iff]
  constructor
  · rintro ⟨front, rfl, stem, rfl⟩
    exact ⟨stem, by rw [List.append_assoc, List.singleton_append]⟩
  · rintro ⟨stem, rfl⟩
    exact ⟨stem ++ ['.'], by rw [List.append_assoc, List.singleton_append], stem, rfl⟩

theorem fileExtension?_eq_some_iff {r : Request} {x : String} :
    r.fileExtension? = some x ↔ '.' ∉ x.toList ∧ ∃ stem, r.file = stem ++ '.' :: x.toList := by
  rw [Request.fileExtension?, Option.map_eq_some_iff]
  constructor
  · rintro ⟨⟨stem, ext⟩, hcut, rfl⟩
    obtain ⟨hfile, hext⟩ := cutLast_eq_some_iff.1 hcut
    rw [String.toList_ofList]
    exact ⟨hext, stem, hfile⟩
  · rintro ⟨hx, stem, hfile⟩
    exact ⟨(stem, x.toList), cutLast_eq_some_iff.2 ⟨hfile, hx⟩, String.ofList_toList⟩

/-- Where an extension holds no dot of its own, it is looked for as the extension of the request. -/
theorem hasExtension_file_iff {r : Request} {ext : String} (h : '.' ∉ ext.toList.tail) :
    hasExtension r.file ext = true ↔ ∃ x, r.fileExtension? = some x ∧ x.toList = undotted ext.toList := by
  have hext : '.' ∉ undotted ext.toList := by
    unfold undotted
    split
    · next cs hcs => rwa [hcs] at h
    · next hcs =>
      -- without a dot before it, what holds a dot holds it behind the first character
      cases hlist : ext.toList with
      | nil => exact List.not_mem_nil
      | cons c cs =>
        rw [hlist] at h hcs
        refine List.not_mem_cons_of_ne_of_not_mem ?_ h
        rintro rfl
        exact hcs cs rfl
  rw [hasExtension_iff]
  constructor
  · rintro ⟨stem, hfile⟩
    refine ⟨String.ofList (undotted ext.toList), ?_, String.toList_ofList⟩
    rw [fileExtension?_eq_some_iff, String.toList_ofList]
    exact ⟨hext, stem, hfile⟩
  · rintro ⟨x, hx, heq⟩
    obtain ⟨-, stem, hfile⟩ := fileExtension?_eq_some_iff.1 hx
    exact ⟨stem, heq ▸ hfile⟩

/-! ### The predicate -/

/-- What the row of the table says. -/
theorem row_fileExtension : ∀ p ∈ predicates, p.name = "file-ext-eq" → p.params = [.str] ∧ p.isVariadic = true ∧
    p.isResponseOnly = false ∧ ∀ args f, p.test.run args f = (strs args).any (hasExtension f.request.file) := by
  simp [predicates, Test.run]

theorem exists_row_fileExtension : ∃ p ∈ predicates, p.name = "file-ext-eq" := by decide

theorem fitFrom_strs {p : Predicate} (hp : ∀ i, p.param? i = some .str) (args : List String) (i : Nat) :
    p.fitFrom i (args.map .str) = .ok (args.map .str) := by
  induction args generalizing i with
  | nil => rfl
  | cons arg args ih =>
    rw [List.map_cons, Predicate.fitFrom, hp i]
    show (p.fitFrom (i + 1) (args.map .str)).map (Literal.str arg :: ·) = _
    rw [ih]
    rfl

theorem bind_fileExtension (exts : List String) : ∃ p ∈ predicates, p.name = "file-ext-eq" ∧
    (Expr.predicate "file-ext-eq" (exts.map .str)).bind =
      if exts = [] then .error (.badArguments p.name (.count true 1 0)) else .ok (.predicate p (exts.map .str)) := by
  obtain ⟨p, hp, hname⟩ := exists_row_fileExtension
  obtain ⟨hparams, hv, -, -⟩ := row_fileExtension p hp hname
  have hfind : Predicate.find? "file-ext-eq" = some p := Predicate.find?_eq_some_iff.2 ⟨hp, by rw [hname]⟩
  have hkind : ∀ i, p.param? i = some .str := fun i => by
    rw [Predicate.param?, hparams, hv]
    cases i <;> rfl
  refine ⟨p, hp, hname, ?_⟩
  rw [Expr.bind, bindPredicate, hfind]
  simp only [Predicate.fitArgs, Predicate.accepts, hparams, hv, if_true, fitFrom_strs hkind]
  cases exts <;> simp

/-- On any message, the predicate looks for each of its arguments at the end of the file name. -/
theorem eval_fileExtension_eq (exts : List String) (facts : Facts) :
    (Expr.predicate "file-ext-eq" (exts.map .str)).eval facts =
      if exts = [] then .error (.badArguments "file-ext-eq" (.count true 1 0))
      else .ok (exts.any (hasExtension facts.request.file)) := by
  obtain ⟨p, hp, hname, hbind⟩ := bind_fileExtension exts
  obtain ⟨-, -, hr, hrun⟩ := row_fileExtension p hp hname
  rw [Expr.eval, hbind, hname]
  split
  · rfl
  · show p.eval (exts.map .str) facts = _
    rw [Predicate.eval, hr, hrun, strs_map_str]
    rfl

/-- **The two tests of a file extension.** With at least one extension the predicate has an answer. It is true exactly
if the file name of the path ends with a dot and one of the extensions without its own first dot; and if no extension
holds another dot, exactly if the extension of the request is one of them. -/
theorem eval_fileExtension (exts : List String) (facts : Facts) :
    let r := facts.request
    let answer := (Expr.predicate "file-ext-eq" (exts.map .str)).eval facts
    (exts ≠ [] → ∃ b, answer = .ok b) ∧
    (answer = .ok true ↔ ∃ ext ∈ exts, ∃ stem, IsFileOf (stem ++ '.' :: undotted ext.toList) r.path.toList) ∧
    ((∀ ext ∈ exts, '.' ∉ ext.toList.tail) →
      (answer = .ok true ↔ ∃ x, r.fileExtension? = some x ∧ ∃ ext ∈ exts, x.toList = undotted ext.toList)) := by
  intro r answer
  have hanswer : answer = _ := eval_fileExtension_eq exts facts
  have htrue : answer = .ok true ↔ ∃ ext ∈ exts, hasExtension r.file ext = true := by
    rw [hanswer]
    split
    · next hnil => simp [hnil]
    · rw [Except.ok.injEq, List.any_eq_true]
  have hpath : r.path.toList = r.uri.path := String.toList_ofList
  refine ⟨fun hne => ⟨_, hanswer.trans (if_neg hne)⟩, ?_, fun hdots => ?_⟩
  · rw [htrue, hpath]
    refine exists_congr fun ext => and_congr_right fun _ => hasExtension_iff.trans (exists_congr fun stem => ?_)
    exact ⟨fun heq => heq ▸ isFileOf_file r, IsFileOf.eq_file⟩
  · rw [htrue]
    constructor
    · rintro ⟨ext, hext, h⟩
      obtain ⟨x, hx, heq⟩ := (hasExtension_file_iff (hdots ext hext)).1 h
      exact ⟨x, hx, ext, hext, heq⟩
    · rintro ⟨x, hx, ext, hext, heq⟩
      exact ⟨ext, hext, (hasExtension_file_iff (hdots ext hext)).2 ⟨x, hx, heq⟩⟩

/-- A file name with two dots, in a folder with a dot: its extension is what follows the last dot, but with a dot of its
own an extension can be longer. -/
theorem eval_fileExtension_archive :
    let r : Request := .new ⟨"GET", by decide⟩ (.origin ⟨"/v1.0/a.tar.gz".toList, none, by decide, by decide⟩)
    let ask (exts : List String) := (Expr.predicate "file-ext-eq" (exts.map .str)).eval ⟨.request, r, .none⟩
    r.fileExtension? = some "gz" ∧ ask ["zip", ".gz"] = .ok true ∧ ask ["tar.gz"] = .ok true ∧
      ask ["tar", "0"] = .ok false := by
  intro r ask
  have hext : r.fileExtension? = some "gz" := by decide +kernel
  refine ⟨hext, ?_, ?_, ?_⟩
  · exact ((eval_fileExtension ["zip", ".gz"] _).2.2 (by decide)).2 ⟨"gz", hext, ".gz", by decide, by decide⟩
  · refine (eval_fileExtension ["tar.gz"] _).2.1.2 ⟨"tar.gz", by decide, ['a'], by decide, .inr ⟨"/v1.0".toList, ?_⟩⟩
    decide +kernel
  · obtain ⟨hsome, -, hiff⟩ := eval_fileExtension ["tar", "0"] ⟨.request, r, .none⟩
    obtain ⟨b, hb⟩ := hsome (by decide)
    have hfalse : b ≠ true := by
      rintro rfl
      obtain ⟨x, hx, hmem⟩ := (hiff (by decide)).1 hb
      obtain rfl : "gz" = x := Option.some.inj (hext.symm.trans hx)
      revert hmem
      decide
    rwa [Bool.eq_false_iff.2 hfalse] at hb

end InterceptAddons.Filter
