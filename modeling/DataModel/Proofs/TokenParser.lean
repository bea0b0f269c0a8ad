import DataModel.TokenParser

/-!
# Names among tokens

The lexer makes a name only of what begins and continues a name, and a parser takes its names from
the tokens that it is given. Whatever a grammar puts together from parsers therefore has names of
that form where it has names of tokens.

## Convention

A parser is described by what it makes of tokens whose names have the form of names: `p.Yields P`
says that the tokens it leaves are such tokens again, and that its result satisfies `P`. A parser
whose result does not matter merely keeps this property of the tokens.

## Main results

* `Token.namesSpelled_of_scan`: **the names among the tokens of a text** have the form of names.
* `Parser.Yields.bind`, `Parser.Yields.orElse`, `Parser.Yields.maybe`, `Parser.Yields.many1`: what a
  parser yields that is put together from parsers.
-/

namespace DataModel

/-! ### Tokens -/

namespace Token

/-- The names among the tokens have the form of names. -/
def NamesSpelled (ts : List Token) : Prop := ∀ s, Token.name s ∈ ts → isName s = true

variable {t : Token} {ts : List Token}

/-- The form of the names, token by token. -/
theorem namesSpelled_cons : NamesSpelled (t :: ts) ↔
    (∀ s, t = .name s → isName s = true) ∧ NamesSpelled ts := by
  simp only [NamesSpelled, List.mem_cons, or_imp, forall_and, eq_comm (a := t)]

/-- A name is made of what a name begins with and what continues it. -/
theorem isName_ofList {c : Char} {cs : List Char} (hc : isNameStart c = true) :
    isName (String.ofList (c :: cs.takeWhile isNameChar)) = true := by
  simp only [isName, String.toList_ofList, hc, Bool.true_and]
  exact List.all_takeWhile ..

/-- The form of the names, with one more token before them. -/
theorem namesSpelled_of_map {o : Option (List Token)} (ht : ∀ s, t = .name s → isName s = true)
    (ho : ∀ {us}, o = some us → NamesSpelled us) (h : o.map (t :: ·) = some ts) :
    NamesSpelled ts := by
  obtain ⟨us, hus, rfl⟩ := Option.map_eq_some_iff.mp h
  exact namesSpelled_cons.mpr ⟨ht, ho hus⟩

/-- The names among the tokens of the rest of a text have the form of names. -/
theorem namesSpelled_of_scanFrom {lexicon : Lexicon} {fuel opened : Nat} {cs : List Char}
    (h : scanFrom lexicon fuel opened cs = some ts) : NamesSpelled ts := by
  fun_induction scanFrom lexicon fuel opened cs generalizing ts with
  | case1 =>
      obtain rfl := Option.some.inj h
      exact fun s hs => absurd hs List.not_mem_nil
  | case3 _ _ _ _ _ ih => exact ih h
  | case4 _ _ _ _ ih => exact ih h
  | case5 _ _ c rest _ _ hc ih =>
      refine namesSpelled_of_map (fun s hs => ?_) ih h
      rw [← Token.name.inj hs]
      exact isName_ofList hc
  | case7 | case8 | case9 | case11 | case12 | case14 | case16 =>
      rename_i ih
      exact namesSpelled_of_map (by rintro _ ⟨⟩) ih h
  | _ => cases h

/-- **The names among the tokens of a text** have the form of names. -/
theorem namesSpelled_of_scan {lexicon : Lexicon} {text : String}
    (h : scan lexicon text = some ts) : NamesSpelled ts :=
  namesSpelled_of_scanFrom h

end Token

/-! ### Parsers -/

namespace Parser

variable {α β : Type} {p : Parser α} {P : α → Prop}

/-- What a parser makes of tokens whose names have the form of names: such tokens again, and a
result that satisfies `P`. -/
def Yields (p : Parser α) (P : α → Prop) : Prop :=
  ∀ ts a rest, Token.NamesSpelled ts → p ts = some (a, rest) → P a ∧ Token.NamesSpelled rest

/-- The parser leaves tokens whose names have the form of names, when it is given such. -/
def Keeps (p : Parser α) : Prop := p.Yields fun _ => True

theorem Yields.imp {Q : α → Prop} (h : p.Yields P) (hPQ : ∀ a, P a → Q a) : p.Yields Q :=
  fun ts a rest hts hp => (h ts a rest hts hp).imp_left (hPQ a)

theorem Yields.keeps (h : p.Yields P) : p.Keeps := h.imp fun _ _ => trivial

/-! ### Sequence and choice -/

theorem Yields.pure {a : α} (h : P a) : (Pure.pure a : Parser α).Yields P := by
  rintro ts _ _ hts ⟨⟩
  exact ⟨h, hts⟩

theorem Yields.bind {f : α → Parser β} {Q : β → Prop} (hp : p.Yields P)
    (hf : ∀ a, P a → (f a).Yields Q) : (p >>= f).Yields Q := by
  intro ts b rest hts h
  obtain ⟨⟨a, middle⟩, hfirst, hsecond⟩ := Option.bind_eq_some_iff.mp h
  obtain ⟨ha, hmiddle⟩ := hp ts a middle hts hfirst
  exact hf a ha middle b rest hmiddle hsecond

theorem Yields.failure : (failure : Parser α).Yields P := nofun

theorem Yields.orElse {q : Parser α} (hp : p.Yields P) (hq : q.Yields P) :
    (p <|> q).Yields P := by
  intro ts a rest hts h
  replace h : (p ts).orElse (fun _ => q ts) = some (a, rest) := h
  rw [Option.orElse_eq_or] at h
  rcases Option.or_eq_some_iff.mp h with h | ⟨-, h⟩
  · exact hp ts a rest hts h
  · exact hq ts a rest hts h

theorem Yields.ite {c : Prop} [Decidable c] {q : Parser α} (hp : p.Yields P) (hq : q.Yields P) :
    (if c then p else q).Yields P := by
  split
  · exact hp
  · exact hq

/-! ### Options and repetitions -/

theorem Yields.maybe (h : p.Yields P) : (maybe p).Yields fun o => ∀ a, o = some a → P a := by
  intro ts o rest hts ho
  unfold Parser.maybe at ho
  split at ho
  case h_1 a rest' hp =>
    obtain ⟨rfl, rfl⟩ := Prod.mk.inj (Option.some.inj ho)
    obtain ⟨ha, hrest⟩ := h ts a rest' hts hp
    exact ⟨fun b hb => Option.some.inj hb ▸ ha, hrest⟩
  case h_2 =>
    obtain ⟨rfl, rfl⟩ := Prod.mk.inj (Option.some.inj ho)
    exact ⟨nofun, hts⟩

theorem Yields.upTo (h : p.Yields P) (n : Nat) : (upTo p n).Yields fun as => ∀ a ∈ as, P a := by
  induction n with
  | zero => exact .pure (by simp)
  | succ n ih =>
      intro ts as rest hts has
      unfold Parser.upTo at has
      split at has
      case h_1 =>
        obtain ⟨rfl, rfl⟩ := Prod.mk.inj (Option.some.inj has)
        exact ⟨by simp, hts⟩
      case h_2 a rest' hp =>
        obtain ⟨ha, hrest'⟩ := h ts a rest' hts hp
        split at has
        case h_1 => cases has
        case h_2 others rest'' hothers =>
          obtain ⟨rfl, rfl⟩ := Prod.mk.inj (Option.some.inj has)
          obtain ⟨hall, hrest⟩ := ih rest' others rest'' hrest' hothers
          exact ⟨List.forall_mem_cons.mpr ⟨ha, hall⟩, hrest⟩

theorem Yields.many (h : p.Yields P) : (many p).Yields fun as => ∀ a ∈ as, P a :=
  fun ts as rest hts has => h.upTo ts.length ts as rest hts has

theorem Yields.many1 (h : p.Yields P) : (many1 p).Yields fun as => ∀ a ∈ as, P a :=
  h.bind fun _ ha => h.many.bind fun _ has => .pure (List.forall_mem_cons.mpr ⟨ha, has⟩)

/-! ### Parsers of single tokens -/

theorem next_yields : next.Yields fun t => ∀ s, t = .name s → isName s = true := by
  rintro (_ | ⟨t, ts⟩) _ _ hts ⟨⟩
  exact Token.namesSpelled_cons.mp hts

/-- A parser that takes one token keeps the property of those after it. -/
theorem keeps_of_cons (h : ∀ ts a rest, p ts = some (a, rest) → ∃ t, ts = t :: rest) : p.Keeps := by
  intro ts a rest hts hp
  obtain ⟨t, rfl⟩ := h ts a rest hp
  exact ⟨trivial, (Token.namesSpelled_cons.mp hts).2⟩

theorem name_yields : name.Yields (isName · = true) := by
  intro ts s rest hts h
  unfold name at h
  split at h
  case h_1 t ts =>
    obtain ⟨rfl, rfl⟩ := Prod.mk.inj (Option.some.inj h)
    exact (Token.namesSpelled_cons.mp hts).imp_left fun hname => hname t rfl
  case h_2 => cases h

theorem string_keeps : string.Keeps := keeps_of_cons fun ts s rest h => by
  fun_cases string ts <;> simp_all [string]

theorem keyword_keeps (s : String) : (keyword s).Keeps := keeps_of_cons fun ts _ rest h => by
  fun_cases keyword s ts <;> simp_all [keyword]

theorem punctuator_keeps (c : Char) : (punctuator c).Keeps := keeps_of_cons fun ts _ rest h => by
  fun_cases punctuator c ts <;> simp_all [punctuator]

/-! ### Names and types -/

theorem separatedNames_keeps (c : Char) : (separatedNames c).Keeps :=
  (punctuator_keeps c).maybe.bind fun _ _ => name_yields.bind fun _ _ =>
    ((punctuator_keeps c).bind fun _ _ => name_yields.keeps).many.bind fun _ _ => .pure trivial

theorem typeUpTo_keeps (n : Nat) : (typeUpTo n).Keeps := by
  induction n with
  | zero => exact .failure
  | succ n ih =>
      unfold typeUpTo
      refine .bind (P := fun _ => True) (.orElse ?named ?list) fun inner _ => ?bang
      case named => exact name_yields.bind fun _ _ => .pure trivial
      case list =>
        exact (punctuator_keeps _).bind fun _ _ => ih.bind fun _ _ =>
          (punctuator_keeps _).bind fun _ _ => .pure trivial
      case bang =>
        refine (punctuator_keeps _).maybe.bind fun mark _ => ?_
        cases mark <;> exact .pure trivial

theorem type_keeps : type.Keeps := fun ts => typeUpTo_keeps ts.length ts

end Parser

end DataModel
