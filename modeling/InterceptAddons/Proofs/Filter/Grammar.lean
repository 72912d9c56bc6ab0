import InterceptAddons.Filter.Parser
import InterceptAddons.Proofs.Filter.Lexing
import Mathlib.Data.List.Forall2

/-!
# The grammar of filters

`Derives d ts e`: below `d` open forms, the tokens `ts` are the expression `e`. Main statement:
`parse_iff_derives`, a text denotes `e` exactly if it can be cut into tokens and the tokens derive `e`; no list
of tokens derives two expressions.

The reader keeps a stack of unfinished forms. For soundness, `Open stack ts` says which tokens a stack stands
for, and every step keeps it (`Progress.Sound.step`). For completeness, a derivation is followed token by token
from any stack of the right height (`run_of_derives`).
-/

namespace InterceptAddons.Filter

/-! ### Derivations -/

/-- The literals that single tokens denote. -/
inductive Denotes : Token → Literal → Prop
  | str (s : String) : Denotes (.str s) (.str s)
  | raw {source : String} {p : Pattern} (h : Pattern.compile? source = some p) :
    Denotes (.raw source) (.regex p)
  | int (n : Int64) : Denotes (.int n) (.int n)
  | true {word : String} (h : word.toLower = "true") : Denotes (.ident word) (.bool true)
  | false {word : String} (h : word.toLower = "false") : Denotes (.ident word) (.bool false)

def formTokens (word : String) (ts : List Token) : List Token :=
  .leftParen :: .ident word :: (ts ++ [.rightParen])

mutual

/-- The expressions that tokens denote below a number of open forms. -/
inductive Derives : Nat → List Token → Expr → Prop
  | true {d : Nat} {word : String} (h : word.toLower = "true") : Derives d [.ident word] (.all [])
  | false {d : Nat} {word : String} (h : word.toLower = "false") : Derives d [.ident word] (.any [])
  | and {d : Nat} {word : String} {ts : List Token} {es : List Expr} (hd : d < maxDepth)
    (h : word.toLower = "and") (hs : DerivesAll (d + 1) ts es) :
    Derives d (formTokens word ts) (.all es)
  | or {d : Nat} {word : String} {ts : List Token} {es : List Expr} (hd : d < maxDepth)
    (h : word.toLower = "or") (hs : DerivesAll (d + 1) ts es) :
    Derives d (formTokens word ts) (.any es)
  | not {d : Nat} {word : String} {ts : List Token} {e : Expr} (hd : d < maxDepth)
    (h : word.toLower = "not") (hs : Derives (d + 1) ts e) :
    Derives d (formTokens word ts) (.not e)
  | predicate {d : Nat} {word : String} {ts : List Token} {args : List Literal} (hd : d < maxDepth)
    (h : word.toLower ∉ ["and", "or", "not"]) (hs : List.Forall₂ Denotes ts args) :
    Derives d (formTokens word ts) (.predicate word.toLower args)

/-- The lists of expressions that tokens denote below a number of open forms. -/
inductive DerivesAll : Nat → List Token → List Expr → Prop
  | nil {d : Nat} : DerivesAll d [] []
  | cons {d : Nat} {ts us : List Token} {e : Expr} {es : List Expr} (he : Derives d ts e)
    (hs : DerivesAll d us es) : DerivesAll d (ts ++ us) (e :: es)

end

theorem DerivesAll.concat {d : Nat} {ts us : List Token} {es : List Expr} {e : Expr} :
    DerivesAll d ts es → Derives d us e → DerivesAll d (ts ++ us) (es ++ [e])
  | .nil, he => by simpa using DerivesAll.cons he .nil
  | .cons he' hs, he => by
    rw [List.append_assoc]
    exact .cons he' (hs.concat he)

theorem DerivesAll.singleton_iff {d : Nat} {ts : List Token} {e : Expr} :
    DerivesAll d ts [e] ↔ Derives d ts e := by
  constructor
  · intro h
    cases h with
    | cons he hs =>
      cases hs
      simpa using he
  · intro h
    simpa using DerivesAll.cons h .nil

/-! ### Words -/

theorem constant?_eq_some_iff {word : String} {b : Bool} :
    constant? word = some b ↔ word.toLower = if b then "true" else "false" := by
  unfold constant?
  split
  · next h => cases b <;> simp [h]
  · next h => cases b <;> simp [h]
  · next h₁ h₂ =>
    cases b with
    | true => simpa using h₁
    | false => simpa using h₂

theorem constant?_true {word : String} (h : word.toLower = "true") : constant? word = some true :=
  constant?_eq_some_iff.2 h

theorem constant?_false {word : String} (h : word.toLower = "false") : constant? word = some false :=
  constant?_eq_some_iff.2 h

theorem ofWord?_eq_some_iff {word : String} {op : Connective} :
    Connective.ofWord? word = some op ↔
      word.toLower = match op with
        | .all => "and"
        | .any => "or"
        | .not => "not" := by
  unfold Connective.ofWord?
  split
  · next h => cases op <;> simp [h]
  · next h => cases op <;> simp [h]
  · next h => cases op <;> simp [h]
  · next h₁ h₂ h₃ =>
    cases op with
    | all => simpa using h₁
    | any => simpa using h₂
    | not => simpa using h₃

theorem ofWord?_eq_none_iff {word : String} :
    Connective.ofWord? word = none ↔ word.toLower ∉ ["and", "or", "not"] := by
  unfold Connective.ofWord?
  split
  · next h => simp [h]
  · next h => simp [h]
  · next h => simp [h]
  · next h₁ h₂ h₃ => simpa using And.intro h₁ (And.intro h₂ h₃)

theorem Derives.const {d : Nat} {word : String} {b : Bool} (h : constant? word = some b) :
    Derives d [.ident word] (.const b) := by
  rw [constant?_eq_some_iff] at h
  cases b with
  | true => exact .true h
  | false => exact .false h

theorem Denotes.bool {word : String} {b : Bool} (h : constant? word = some b) :
    Denotes (.ident word) (.bool b) := by
  rw [constant?_eq_some_iff] at h
  cases b with
  | true => exact .true h
  | false => exact .false h

/-! ### Soundness -/

/-- A frame that may hold expressions. -/
def Frame.IsForm : Frame → Prop
  | .form _ _ _ => True
  | _ => False

/-- The tokens that lead to a stack of unfinished forms. Only the innermost form may be without its word or
hold literals. -/
inductive Open : List Frame → List Token → Prop
  | nil : Open [] []
  | opened {stack : List Frame} {ts : List Token} {start : Nat} (h : Open stack ts)
    (hf : ∀ f ∈ stack, f.IsForm) (hd : stack.length < maxDepth) :
    Open (.opened start :: stack) (ts ++ [.leftParen])
  | form {stack : List Frame} {ts us : List Token} {start : Nat} {word : String} {op : Connective}
    {children : List Expr} (h : Open stack ts) (hf : ∀ f ∈ stack, f.IsForm)
    (hd : stack.length < maxDepth) (hw : Connective.ofWord? word = some op)
    (hs : DerivesAll (stack.length + 1) us children.reverse) :
    Open (.form start op children :: stack) (ts ++ .leftParen :: .ident word :: us)
  | call {stack : List Frame} {ts us : List Token} {start : Nat} {word : String} {args : List Literal}
    (h : Open stack ts) (hf : ∀ f ∈ stack, f.IsForm) (hd : stack.length < maxDepth)
    (hw : Connective.ofWord? word = none) (hs : List.Forall₂ Denotes us args.reverse) :
    Open (.call start word.toLower args :: stack) (ts ++ .leftParen :: .ident word :: us)

/-- The tokens that lead to some progress. -/
def Progress.Sound : Progress → List Token → Prop
  | .reading stack, ts => Open stack ts
  | .done e, ts => Derives 0 ts e

@[simp] theorem sound_reading {stack : List Frame} {ts : List Token} :
    (Progress.reading stack).Sound ts ↔ Open stack ts := Iff.rfl

@[simp] theorem sound_done {e : Expr} {ts : List Token} :
    (Progress.done e).Sound ts ↔ Derives 0 ts e := Iff.rfl

theorem sound_deliver {stack : List Frame} {ts us : List Token} {e : Expr} (h : Open stack ts)
    (hf : ∀ f ∈ stack, f.IsForm) (he : Derives stack.length us e) :
    (deliver e stack).Sound (ts ++ us) := by
  cases h with
  | nil => exact he
  | opened => exact absurd (hf _ List.mem_cons_self) id
  | call => exact absurd (hf _ List.mem_cons_self) id
  | @form stack ts vs start word op children h hf' hd hw hs =>
    have hc : DerivesAll (stack.length + 1) (vs ++ us) (e :: children).reverse := by
      rw [List.reverse_cons]
      exact hs.concat he
    have ho : Open (.form start op (e :: children) :: stack) _ := .form h hf' hd hw hc
    simpa [deliver] using ho

/-- What a form with all its children denotes. -/
theorem derives_build {d start : Nat} {word : String} {op : Connective} {ts : List Token}
    {es : List Expr} {e : Expr} (hd : d < maxDepth) (hw : Connective.ofWord? word = some op)
    (hs : DerivesAll (d + 1) ts es) (he : op.build start es = .ok e) :
    Derives d (formTokens word ts) e := by
  rw [ofWord?_eq_some_iff] at hw
  cases op with
  | all =>
    cases he
    exact .and hd hw hs
  | any =>
    cases he
    exact .or hd hw hs
  | not =>
    match es, he with
    | [e], he =>
      cases he
      exact .not hd hw (DerivesAll.singleton_iff.1 hs)

theorem sound_readHead {start : Nat} {stack : List Frame} {ts : List Token} {t : Lexeme} {p : Progress}
    (h : Open stack ts) (hf : ∀ f ∈ stack, f.IsForm) (hd : stack.length < maxDepth)
    (hp : readHead start stack t = .ok p) : p.Sound (ts ++ [.leftParen] ++ [t.token]) := by
  obtain ⟨token, position⟩ := t
  cases token with
  | ident word =>
    simp only [readHead] at hp
    cases hw : Connective.ofWord? word with
    | some op =>
      rw [hw] at hp
      obtain rfl := Except.ok.inj hp
      simpa using Open.form h hf hd hw .nil
    | none =>
      rw [hw] at hp
      obtain rfl := Except.ok.inj hp
      simpa using Open.call h hf hd hw .nil
  | leftParen | rightParen | str | raw | int => cases hp

theorem sound_readArgument {start : Nat} {name : String} {args : List Literal} {stack : List Frame}
    {ts : List Token} {t : Lexeme} {p : Progress} (h : Open (.call start name args :: stack) ts)
    (hp : readArgument start name args stack t = .ok p) : p.Sound (ts ++ [t.token]) := by
  obtain ⟨token, position⟩ := t
  cases h with
  | @call _ ts us _ word _ h hf hd hw hs =>
    have literal : ∀ {token : Token} {l : Literal}, Denotes token l →
        Open (.call start word.toLower (l :: args) :: stack)
          (ts ++ .leftParen :: .ident word :: us ++ [token]) := by
      intro token l hl
      have hs' : List.Forall₂ Denotes (us ++ [token]) (l :: args).reverse := by
        rw [List.reverse_cons]
        exact List.rel_append hs (.cons hl .nil)
      simpa using Open.call h hf hd hw hs'
    cases token with
    | rightParen =>
      obtain rfl := Except.ok.inj hp
      have he := Derives.predicate hd (ofWord?_eq_none_iff.1 hw) hs
      simpa [formTokens] using sound_deliver h hf he
    | leftParen => cases hp
    | str s =>
      obtain rfl := Except.ok.inj hp
      exact literal (.str s)
    | raw source =>
      simp only [readArgument] at hp
      split at hp
      · next q hq =>
        obtain rfl := Except.ok.inj hp
        exact literal (.raw hq)
      · cases hp
    | int n =>
      obtain rfl := Except.ok.inj hp
      exact literal (.int n)
    | ident word' =>
      simp only [readArgument] at hp
      split at hp
      · next b hb =>
        obtain rfl := Except.ok.inj hp
        exact literal (.bool hb)
      · cases hp

theorem sound_readOperand {stack : List Frame} {ts : List Token} {t : Lexeme} {p : Progress}
    (h : Open stack ts) (hf : ∀ f ∈ stack, f.IsForm) (hp : readOperand stack t = .ok p) :
    p.Sound (ts ++ [t.token]) := by
  obtain ⟨token, position⟩ := t
  cases token with
  | leftParen =>
    simp only [readOperand] at hp
    split at hp
    · next hd =>
      obtain rfl := Except.ok.inj hp
      exact .opened h hf hd
    · cases hp
  | rightParen =>
    simp only [readOperand] at hp
    split at hp
    · next start op children outer =>
      cases hb : op.build start children.reverse with
      | error e => simp [hb, Except.map] at hp
      | ok e =>
        rw [hb] at hp
        obtain rfl := Except.ok.inj hp
        cases h with
        | form h hf' hd hw hs =>
          simpa [formTokens] using sound_deliver h hf' (derives_build hd hw hs hb)
    · cases hp
  | ident word =>
    simp only [readOperand] at hp
    split at hp
    · next b hb =>
      obtain rfl := Except.ok.inj hp
      exact sound_deliver h hf (.const hb)
    · cases hp
  | str | raw | int => cases hp

/-- **Every step is sound.** -/
theorem Progress.Sound.step {p p' : Progress} {ts : List Token} {t : Lexeme} (h : p.Sound ts)
    (hp : p.step t = .ok p') : p'.Sound (ts ++ [t.token]) := by
  match p with
  | .done _ => cases hp
  | .reading [] => exact sound_readOperand h (by simp) hp
  | .reading (.opened start :: stack) =>
    cases h with
    | opened h hf hd => exact sound_readHead h hf hd hp
  | .reading (.call start name args :: stack) => exact sound_readArgument h hp
  | .reading (.form start op children :: stack) =>
    have hf : ∀ f ∈ Frame.form start op children :: stack, f.IsForm := by
      cases h with
      | form _ hf => simpa [Frame.IsForm] using hf
    exact sound_readOperand h hf hp

theorem Progress.Sound.run {p p' : Progress} {ts : List Token} {ls : List Lexeme} (h : p.Sound ts)
    (hp : p.run ls = .ok p') : p'.Sound (ts ++ ls.map Lexeme.token) := by
  induction ls generalizing p ts with
  | nil =>
    obtain rfl := Except.ok.inj hp
    simpa using h
  | cons t ls ih =>
    rw [Progress.run] at hp
    cases hs : p.step t with
    | error e => simp [hs, Except.bind] at hp
    | ok q =>
      rw [hs] at hp
      simpa using ih (h.step hs) hp

theorem derives_of_ofLexemes {ls : List Lexeme} {e : Expr} (h : Expr.ofLexemes ls = .ok e) :
    Derives 0 (ls.map Lexeme.token) e := by
  unfold Expr.ofLexemes at h
  cases hr : (Progress.reading []).run ls with
  | error err => simp [hr, Except.bind] at h
  | ok p =>
    rw [hr] at h
    have hs : p.Sound ([] ++ ls.map Lexeme.token) := (sound_reading.2 Open.nil).run hr
    cases p with
    | done e' =>
      obtain rfl := Except.ok.inj h
      exact hs
    | reading stack => cases stack <;> cases h

/-! ### Completeness -/

theorem run_append (p : Progress) (ls ls' : List Lexeme) :
    p.run (ls ++ ls') = (p.run ls).bind (·.run ls') := by
  induction ls generalizing p with
  | nil => rfl
  | cons t ls ih =>
    rw [List.cons_append, Progress.run, Progress.run]
    cases hs : p.step t with
    | error e => rfl
    | ok q => exact ih q

/-- A literal is read into the form around it. -/
theorem step_denotes {start : Nat} {name : String} {args : List Literal} {stack : List Frame}
    {t : Lexeme} {l : Literal} (h : Denotes t.token l) :
    (Progress.reading (.call start name args :: stack)).step t =
      .ok (.reading (.call start name (l :: args) :: stack)) := by
  obtain ⟨token, position⟩ := t
  cases h with
  | str s => rfl
  | raw hp => simp [Progress.step, readArgument, hp]
  | int n => rfl
  | true h => simp [Progress.step, readArgument, constant?_true h]
  | false h => simp [Progress.step, readArgument, constant?_false h]

theorem run_of_denotes {start : Nat} {name : String} {stack : List Frame} {ls : List Lexeme}
    {args acc : List Literal} (h : List.Forall₂ Denotes (ls.map Lexeme.token) args) :
    (Progress.reading (.call start name acc :: stack)).run ls =
      .ok (.reading (.call start name (args.reverse ++ acc) :: stack)) := by
  induction ls generalizing args acc with
  | nil =>
    cases h
    rfl
  | cons t ls ih =>
    cases h with
    | @cons _ l _ args hl hs =>
      rw [Progress.run, step_denotes hl, Except.bind, ih hs, List.reverse_cons, List.append_assoc]
      rfl

/-- Where a stack holds forms only, an operand is read. -/
theorem step_of_forms {stack : List Frame} (hf : ∀ f ∈ stack, f.IsForm) (t : Lexeme) :
    (Progress.reading stack).step t = readOperand stack t := by
  match stack with
  | [] => rfl
  | .form _ _ _ :: _ => rfl
  | .opened _ :: _ | .call _ _ _ :: _ => exact absurd (hf _ List.mem_cons_self) id

/-- The start of a form is read. -/
theorem run_formTokens {stack : List Frame} (hf : ∀ f ∈ stack, f.IsForm) (hd : stack.length < maxDepth)
    {ls : List Lexeme} {word : String} {ts : List Token}
    (hls : ls.map Lexeme.token = formTokens word ts) :
    ∃ p q r ls', ls'.map Lexeme.token = ts ∧
      (Progress.reading stack).run ls =
        (readHead p stack ⟨.ident word, q⟩).bind fun progress =>
          (progress.run ls').bind (·.step ⟨.rightParen, r⟩) := by
  unfold formTokens at hls
  obtain ⟨⟨_, p⟩, ls₁, rfl, rfl, h₁⟩ := List.map_eq_cons_iff.1 hls
  obtain ⟨⟨_, q⟩, ls₂, rfl, rfl, h₂⟩ := List.map_eq_cons_iff.1 h₁
  obtain ⟨ls₃, last, rfl, h₃, hlast⟩ := List.map_eq_append_iff.1 h₂
  obtain ⟨⟨_, r⟩, rfl, rfl⟩ := List.map_eq_singleton_iff.1 hlast
  refine ⟨p, q, r, ls₃, h₃, ?_⟩
  have hopen : (Progress.reading stack).step ⟨.leftParen, p⟩ = .ok (.reading (.opened p :: stack)) := by
    rw [step_of_forms hf, readOperand, if_pos hd]
  have hclose : ∀ progress : Progress, progress.run (ls₃ ++ [⟨.rightParen, r⟩]) =
      (progress.run ls₃).bind (·.step ⟨.rightParen, r⟩) := by
    intro progress
    rw [run_append]
    congr 1
    funext progress'
    rw [Progress.run]
    cases progress'.step ⟨.rightParen, r⟩ <;> rfl
  rw [Progress.run, hopen]
  show ((readHead p stack ⟨.ident word, q⟩).bind fun progress =>
    progress.run (ls₃ ++ [⟨.rightParen, r⟩])) = _
  simp only [hclose]

/-- A form of expressions is read, if its children are. -/
theorem run_form {stack : List Frame} (hf : ∀ f ∈ stack, f.IsForm) (hd : stack.length < maxDepth)
    {ls : List Lexeme} {word : String} {ts : List Token} {e : Expr} (op : Connective) (es : List Expr)
    (hw : Connective.ofWord? word = some op) (he : ∀ start, op.build start es = .ok e)
    (hs : ∀ start ls, ls.map Lexeme.token = ts → (Progress.reading (.form start op [] :: stack)).run ls =
      .ok (.reading (.form start op es.reverse :: stack)))
    (hls : ls.map Lexeme.token = formTokens word ts) :
    (Progress.reading stack).run ls = .ok (deliver e stack) := by
  obtain ⟨p, q, r, ls', hls', hrun⟩ := run_formTokens hf hd hls
  have hhead : readHead p stack ⟨.ident word, q⟩ = .ok (.reading (.form p op [] :: stack)) := by
    simp only [readHead, hw]
  have hclose : (Progress.reading (.form p op es.reverse :: stack)).step ⟨.rightParen, r⟩ =
      .ok (deliver e stack) := by
    simp [Progress.step, readOperand, he, Except.map]
  rw [hrun, hhead, Except.bind, hs p ls' hls', Except.bind, hclose]

mutual

theorem run_of_derives : ∀ {d : Nat} {ts : List Token} {e : Expr}, Derives d ts e →
    ∀ {stack : List Frame} {ls : List Lexeme}, (∀ f ∈ stack, f.IsForm) → stack.length = d →
      ls.map Lexeme.token = ts → (Progress.reading stack).run ls = .ok (deliver e stack)
  | _, _, _, .true h, stack, ls, hf, _, hls => by
    obtain ⟨⟨_, p⟩, rfl, rfl⟩ := List.map_eq_singleton_iff.1 hls
    rw [Progress.run, step_of_forms hf, readOperand, constant?_true h]
    rfl
  | _, _, _, .false h, stack, ls, hf, _, hls => by
    obtain ⟨⟨_, p⟩, rfl, rfl⟩ := List.map_eq_singleton_iff.1 hls
    rw [Progress.run, step_of_forms hf, readOperand, constant?_false h]
    rfl
  | _, _, .all es, .and hd h hs, stack, ls, hf, hlen, hls =>
    run_form hf (hlen ▸ hd) .all es (ofWord?_eq_some_iff.2 h) (fun _ => rfl)
      (fun start ls hls => by simpa using run_of_derivesAll hs start .all [] hf (by rw [hlen]) hls) hls
  | _, _, .any es, .or hd h hs, stack, ls, hf, hlen, hls =>
    run_form hf (hlen ▸ hd) .any es (ofWord?_eq_some_iff.2 h) (fun _ => rfl)
      (fun start ls hls => by simpa using run_of_derivesAll hs start .any [] hf (by rw [hlen]) hls) hls
  | _, _, .not e, .not hd h hs, stack, ls, hf, hlen, hls =>
    run_form hf (hlen ▸ hd) .not [e] (ofWord?_eq_some_iff.2 h) (fun _ => rfl)
      (fun start ls hls => by
        have hf' : ∀ f ∈ Frame.form start .not [] :: stack, f.IsForm := by simpa [Frame.IsForm] using hf
        exact run_of_derives hs hf' (by simp [hlen]) hls) hls
  | _, _, _, .predicate hd h hs, stack, ls, hf, hlen, hls => by
    obtain ⟨p, q, r, ls', hls', hrun⟩ := run_formTokens hf (hlen ▸ hd) hls
    rw [hrun, readHead, ofWord?_eq_none_iff.2 h]
    show ((Progress.reading (.call p _ [] :: stack)).run ls').bind _ = _
    rw [run_of_denotes (hls' ▸ hs)]
    simp [Except.bind, Progress.step, readArgument]

theorem run_of_derivesAll : ∀ {d : Nat} {ts : List Token} {es : List Expr}, DerivesAll d ts es →
    ∀ (start : Nat) (op : Connective) (acc : List Expr) {stack : List Frame} {ls : List Lexeme},
      (∀ f ∈ stack, f.IsForm) → stack.length + 1 = d → ls.map Lexeme.token = ts →
      (Progress.reading (.form start op acc :: stack)).run ls =
        .ok (.reading (.form start op (es.reverse ++ acc) :: stack))
  | _, _, _, .nil, start, op, acc, stack, ls, _, _, hls => by
    obtain rfl := List.map_eq_nil_iff.1 hls
    rfl
  | _, _, _, .cons he hs, start, op, acc, stack, ls, hf, hlen, hls => by
    obtain ⟨ls₁, ls₂, rfl, h₁, h₂⟩ := List.map_eq_append_iff.1 hls
    have hf' : ∀ f ∈ Frame.form start op acc :: stack, f.IsForm := by simpa [Frame.IsForm] using hf
    rw [run_append, run_of_derives he hf' (by simpa using hlen) h₁]
    show (Progress.reading (.form start op (_ :: acc) :: stack)).run ls₂ = _
    rw [run_of_derivesAll hs start op _ hf hlen h₂]
    simp

end

theorem ofLexemes_of_derives {ls : List Lexeme} {e : Expr} (h : Derives 0 (ls.map Lexeme.token) e) :
    Expr.ofLexemes ls = .ok e := by
  rw [Expr.ofLexemes, run_of_derives h (by simp) rfl rfl]
  rfl

theorem ofLexemes_eq_ok_iff {ls : List Lexeme} {e : Expr} :
    Expr.ofLexemes ls = .ok e ↔ Derives 0 (ls.map Lexeme.token) e :=
  ⟨derives_of_ofLexemes, ofLexemes_of_derives⟩

/-! ### The language -/

theorem Derives.unique {ts : List Token} {e e' : Expr} (h : Derives 0 ts e) (h' : Derives 0 ts e') :
    e' = e := by
  have hts : (ts.map fun t => Lexeme.mk t 0).map Lexeme.token = ts := by simp [Function.comp_def]
  rw [← hts] at h h'
  exact Except.ok.inj ((ofLexemes_of_derives h').symm.trans (ofLexemes_of_derives h))

theorem parse_eq_ok {text : String} {e : Expr} :
    Expr.parse text = .ok e ↔ ∃ ls, lex text = .ok ls ∧ Expr.ofLexemes ls = .ok e := by
  unfold Expr.parse
  cases lex text with
  | error err => simp [Except.bind]
  | ok ls => simp [Except.bind]

theorem parse_of_renders {text : String} {ts : List Token} {e : Expr} (h : Renders text.toList ts)
    (he : Derives 0 ts e) : Expr.parse text = .ok e := by
  obtain ⟨ls, hls, rfl⟩ := lex_iff_renders.2 h
  exact parse_eq_ok.2 ⟨ls, hls, ofLexemes_of_derives he⟩

/-- **The language of filters.** A text denotes an expression exactly if it can be cut into tokens that
derive it; tokens derive one expression at most. -/
theorem parse_iff_derives (text : String) (e : Expr) :
    (Expr.parse text = .ok e ↔ ∃ ls, lex text = .ok ls ∧ Derives 0 (ls.map Lexeme.token) e) ∧
      ∀ ts e', Derives 0 ts e → Derives 0 ts e' → e' = e := by
  refine ⟨?_, fun ts e' => Derives.unique⟩
  simp only [parse_eq_ok, ofLexemes_eq_ok_iff]

end InterceptAddons.Filter
