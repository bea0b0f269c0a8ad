import Mathlib.Data.List.Forall2

/-!
# Sequences of steps that may fail

Checks and generators walk over lists and stop at the first failure. The lemmas here say what a
success of such a walk means: every step succeeded, and the results are those of the steps.

## Main results

* `List.forM_eq_ok_iff`: a walk of checks succeeds exactly when every check does.
* `List.mapM_eq_ok_iff`, `List.mapM_eq_error_iff`: the results of a successful walk, step by step,
  and the step at which another one fails.
* `List.foldlM_invariant`: what every successful step preserves holds after a successful walk.
* `List.foldlM_succeeds`: a walk succeeds when no step fails on a state that satisfies the
  invariant.
* `Except.FailsOnly`: which errors a computation may end with; `Except.FailsOnly.bind`,
  `List.mapM_failsOnly` and `List.foldlM_failsOnly` carry it through sequences and walks.
* `Except.Ends`: what a computation returns or which errors it may end with, with
  `Except.Ends.bind`, `List.mapM_ends` and `List.foldlM_ends`.
-/

variable {ε α β : Type}

/-- A sequence of two steps succeeds exactly when both do. -/
theorem Except.bind_eq_ok_iff {x : Except ε α} {f : α → Except ε β} {b : β} :
    x >>= f = .ok b ↔ ∃ a, x = .ok a ∧ f a = .ok b := by
  cases x with
  | error e => simp [bind, Except.bind]
  | ok a => simp [bind, Except.bind]

/-- The result of a step that only returns. -/
@[simp] theorem Except.pure_eq_ok_iff {a b : α} : (pure a : Except ε α) = .ok b ↔ a = b := by
  simp [pure, Except.pure]

/-- A result is changed where there is one. -/
theorem Except.map_eq_ok_iff {x : Except ε α} {f : α → β} {b : β} :
    x.map f = .ok b ↔ ∃ a, x = .ok a ∧ f a = b := by
  cases x with
  | error e => simp [Except.map]
  | ok a => simp [Except.map]

/-- An error stays where there is no result to change. -/
theorem Except.map_eq_error_iff {x : Except ε α} {f : α → β} {e : ε} :
    x.map f = .error e ↔ x = .error e := by
  cases x <;> simp [Except.map]

/-- A value is taken from a success. -/
theorem Except.toOption_eq_some_iff {x : Except ε α} {a : α} : x.toOption = some a ↔ x = .ok a := by
  cases x <;> simp [Except.toOption]

/-- Every error that the computation may end with satisfies `P`. -/
def Except.FailsOnly (x : Except ε α) (P : ε → Prop) : Prop := ∀ e, x = .error e → P e

namespace Except.FailsOnly

variable {P : ε → Prop}

/-- A computation that returns does not fail. -/
theorem of_eq_ok {x : Except ε α} {a : α} (h : x = .ok a) : x.FailsOnly P := by
  rintro e rfl
  cases h

/-- A step that only returns does not fail. -/
theorem pure (a : α) : (Pure.pure a : Except ε α).FailsOnly P := of_eq_ok rfl

/-- An error satisfies what is asked of it. -/
theorem error {e : ε} (h : P e) : (Except.error e : Except ε α).FailsOnly P := by
  rintro e' ⟨⟩
  exact h

/-- A sequence of two steps fails as one of them does. -/
theorem bind {x : Except ε α} {f : α → Except ε β} (hx : x.FailsOnly P)
    (hf : ∀ a, x = .ok a → (f a).FailsOnly P) : (x >>= f).FailsOnly P := by
  cases x with
  | error e => exact fun e' he => hx e' (congrArg Except.error (Except.error.inj he))
  | ok a => exact hf a rfl

end Except.FailsOnly

/-- The computation returns a value that satisfies `Q` or ends with an error that satisfies `P`. -/
def Except.Ends (x : Except ε α) (Q : α → Prop) (P : ε → Prop) : Prop :=
  (∀ a, x = .ok a → Q a) ∧ x.FailsOnly P

namespace Except.Ends

variable {P : ε → Prop} {Q : α → Prop}

/-- A computation that returns, returns what it returns. -/
theorem of_eq_ok {x : Except ε α} {a : α} (h : x = .ok a) (ha : Q a) : x.Ends Q P :=
  ⟨fun _ hb => Except.ok.inj (h.symm.trans hb) ▸ ha, .of_eq_ok h⟩

/-- A step that only returns. -/
theorem pure {a : α} (ha : Q a) : (Pure.pure a : Except ε α).Ends Q P := of_eq_ok rfl ha

/-- A step that only fails. -/
theorem error {e : ε} (he : P e) : (Except.error e : Except ε α).Ends Q P := ⟨nofun, .error he⟩

/-- A sequence of two steps ends as the second does on what the first returns. -/
theorem bind {x : Except ε α} {f : α → Except ε β} {R : β → Prop} (hx : x.Ends Q P)
    (hf : ∀ a, Q a → (f a).Ends R P) : (x >>= f).Ends R P := by
  refine ⟨fun b hb => ?_, hx.2.bind fun a ha => (hf a (hx.1 a ha)).2⟩
  obtain ⟨a, ha, hb⟩ := Except.bind_eq_ok_iff.mp hb
  exact (hf a (hx.1 a ha)).1 b hb

/-- What is returned may satisfy more. -/
theorem imp {x : Except ε α} {R : α → Prop} (hx : x.Ends Q P) (h : ∀ a, Q a → R a) : x.Ends R P :=
  ⟨fun a ha => h a (hx.1 a ha), hx.2⟩

end Except.Ends

namespace List

/-- A walk of checks succeeds exactly when every check does. -/
theorem forM_eq_ok_iff {check : α → Except ε Unit} {l : List α} :
    l.forM check = .ok () ↔ ∀ a ∈ l, check a = .ok () := by
  induction l with
  | nil => simp [List.forM]
  | cons a l ih =>
      rw [List.forM, Except.bind_eq_ok_iff, List.forall_mem_cons]
      exact ⟨fun ⟨_, ha, hl⟩ => ⟨ha, ih.mp hl⟩, fun ⟨ha, hl⟩ => ⟨_, ha, ih.mpr hl⟩⟩

/-- The results of a successful walk are those of its steps, in order. -/
theorem mapM_eq_ok_iff {f : α → Except ε β} {l : List α} {bs : List β} :
    l.mapM f = .ok bs ↔ Forall₂ (fun a b => f a = .ok b) l bs := by
  induction l generalizing bs with
  | nil => simp [pure, Except.pure, eq_comm]
  | cons a l ih =>
      rw [List.mapM_cons, Except.bind_eq_ok_iff, forall₂_cons_left_iff]
      constructor
      · rintro ⟨b, hb, h⟩
        obtain ⟨rest, hrest, hbs⟩ := Except.bind_eq_ok_iff.mp h
        exact ⟨b, rest, hb, ih.mp hrest, (Except.pure_eq_ok_iff.mp hbs).symm⟩
      · rintro ⟨b, rest, hb, hrest, rfl⟩
        exact ⟨b, hb, Except.bind_eq_ok_iff.mpr ⟨rest, ih.mpr hrest, rfl⟩⟩

/-- A walk succeeds when each of its steps does. -/
theorem mapM_succeeds {f : α → Except ε β} {l : List α} (h : ∀ a ∈ l, ∃ b, f a = .ok b) :
    ∃ bs, l.mapM f = .ok bs := by
  induction l with
  | nil => exact ⟨[], rfl⟩
  | cons a l ih =>
      obtain ⟨b, hb⟩ := h a mem_cons_self
      obtain ⟨bs, hbs⟩ := ih fun x hx => h x (mem_cons_of_mem a hx)
      exact ⟨b :: bs, mapM_eq_ok_iff.mpr (.cons hb (mapM_eq_ok_iff.mp hbs))⟩

/-- Every step of a successful walk succeeded. -/
theorem exists_of_mapM_eq_ok {f : α → Except ε β} {l : List α} {bs : List β}
    (h : l.mapM f = .ok bs) {a : α} (ha : a ∈ l) : ∃ b, f a = .ok b := by
  have hsteps := mapM_eq_ok_iff.mp h
  clear h
  induction hsteps with
  | nil => exact absurd ha not_mem_nil
  | cons hstep _ ih =>
      rcases mem_cons.mp ha with rfl | ha
      · exact ⟨_, hstep⟩
      · exact ih ha

/-- A walk fails as its first step that fails. -/
theorem mapM_eq_error_iff {f : α → Except ε β} {l : List α} {e : ε} :
    l.mapM f = .error e ↔ ∃ before a after, l = before ++ a :: after ∧
      (∀ x ∈ before, ∃ b, f x = .ok b) ∧ f a = .error e := by
  constructor
  · intro h
    induction l with
    | nil => cases h
    | cons a l ih =>
        rw [mapM_cons] at h
        cases ha : f a with
        | error e' =>
            rw [ha] at h
            obtain rfl := Except.error.inj h
            exact ⟨[], a, l, rfl, by simp, ha⟩
        | ok b =>
            cases hl : l.mapM f with
            | ok bs =>
                rw [ha, hl] at h
                cases h
            | error e' =>
                rw [ha, hl] at h
                obtain rfl := Except.error.inj h
                obtain ⟨before, x, after, rfl, hbefore, hx⟩ := ih hl
                exact ⟨a :: before, x, after, rfl, forall_mem_cons.mpr ⟨⟨b, ha⟩, hbefore⟩, hx⟩
  · rintro ⟨before, a, after, rfl, hbefore, ha⟩
    obtain ⟨bs, hbs⟩ := mapM_succeeds hbefore
    rw [mapM_append, hbs, mapM_cons, ha]
    rfl

/-- Walks whose steps are equal are equal. -/
theorem mapM_congr_of_mem {f g : α → Except ε β} {l : List α} (h : ∀ a ∈ l, f a = g a) :
    l.mapM f = l.mapM g := by
  induction l with
  | nil => rfl
  | cons a l ih =>
      obtain ⟨ha, hl⟩ := forall_mem_cons.mp h
      rw [mapM_cons, mapM_cons, ha, ih hl]

/-- The result of a step is among the results of the walk. -/
theorem mem_of_mapM_eq_ok {f : α → Except ε β} {l : List α} {bs : List β} {a : α} {b : β}
    (h : l.mapM f = .ok bs) (ha : a ∈ l) (hb : f a = .ok b) : b ∈ bs := by
  have hstep := mapM_eq_ok_iff.mp h
  clear h
  induction hstep with
  | nil => exact absurd ha not_mem_nil
  | cons hx _ ih =>
      rcases mem_cons.mp ha with rfl | ha
      · exact Except.ok.inj (hx.symm.trans hb) ▸ mem_cons_self
      · exact mem_cons_of_mem _ (ih ha)

/-- The results of a successful walk come from its entries. -/
theorem exists_mem_of_mapM_eq_ok {f : α → Except ε β} {l : List α} {bs : List β}
    (h : l.mapM f = .ok bs) {b : β} (hb : b ∈ bs) : ∃ a ∈ l, f a = .ok b := by
  have hsteps := mapM_eq_ok_iff.mp h
  clear h
  induction hsteps with
  | nil => exact absurd hb not_mem_nil
  | @cons a b' l _ hstep _ ih =>
      rcases mem_cons.mp hb with rfl | hb
      · exact ⟨a, mem_cons_self, hstep⟩
      · obtain ⟨x, hx, hxb⟩ := ih hb
        exact ⟨x, mem_cons_of_mem a hx, hxb⟩

/-- A walk over entries that correspond to those of a successful walk succeeds with corresponding
results, when every step does. -/
theorem exists_mapM_of_forall₂ {γ δ : Type} {R : α → γ → Prop} {S : β → δ → Prop}
    {f : α → Except ε β} {g : γ → Except ε δ} {l : List α} {l' : List γ} {bs : List β}
    (hl : Forall₂ R l l') (h : l.mapM f = .ok bs)
    (hstep : ∀ a ∈ l, ∀ c ∈ l', R a c → ∀ b, f a = .ok b → ∃ e, g c = .ok e ∧ S b e) :
    ∃ es, l'.mapM g = .ok es ∧ Forall₂ S bs es := by
  induction hl generalizing bs with
  | nil => exact ⟨[], rfl, forall₂_nil_right_iff.mpr (Except.ok.inj h).symm⟩
  | @cons a c l l' hac _ ih =>
      obtain ⟨b, bs, hb, hbs, rfl⟩ := forall₂_cons_left_iff.mp (mapM_eq_ok_iff.mp h)
      obtain ⟨e, he, hbe⟩ := hstep a mem_cons_self c mem_cons_self hac b hb
      obtain ⟨es, hes, hrest⟩ := ih (mapM_eq_ok_iff.mpr hbs) fun a ha c hc =>
        hstep a (mem_cons_of_mem _ ha) c (mem_cons_of_mem _ hc)
      exact ⟨e :: es, mapM_eq_ok_iff.mpr (.cons he (mapM_eq_ok_iff.mp hes)), .cons hbe hrest⟩

/-- Something holds of all results of a successful walk when it holds of all entries. -/
theorem forall_mem_iff_of_mapM_eq_ok {f : α → Except ε β} {l : List α} {bs : List β}
    (h : l.mapM f = .ok bs) {before : α → Prop} {after : β → Prop}
    (hstep : ∀ a ∈ l, ∀ b, f a = .ok b → (after b ↔ before a)) :
    (∀ b ∈ bs, after b) ↔ ∀ a ∈ l, before a := by
  have hsteps := mapM_eq_ok_iff.mp h
  clear h
  induction hsteps with
  | nil => simp
  | cons hb _ ih =>
      obtain ⟨hhead, htail⟩ := forall_mem_cons.mp hstep
      rw [forall_mem_cons, forall_mem_cons]
      exact and_congr (hhead _ hb) (ih htail)

/-- Something holds of some result of a successful walk when it holds of some entry. -/
theorem exists_mem_iff_of_mapM_eq_ok {f : α → Except ε β} {l : List α} {bs : List β}
    (h : l.mapM f = .ok bs) {before : α → Prop} {after : β → Prop}
    (hstep : ∀ a ∈ l, ∀ b, f a = .ok b → (after b ↔ before a)) :
    (∃ b ∈ bs, after b) ↔ ∃ a ∈ l, before a := by
  have hnone := forall_mem_iff_of_mapM_eq_ok h fun a ha b hb => not_congr (hstep a ha b hb)
  simpa using not_congr hnone

/-- What can be read off the results of a successful walk, if it can be read off its entries. -/
theorem map_eq_of_mapM_eq_ok {γ : Type} {f : α → Except ε β} {l : List α} {bs : List β}
    (h : l.mapM f = .ok bs) {before : α → γ} {after : β → γ}
    (hstep : ∀ a ∈ l, ∀ b, f a = .ok b → after b = before a) : bs.map after = l.map before := by
  have hsteps := mapM_eq_ok_iff.mp h
  clear h
  induction hsteps with
  | nil => rfl
  | cons hb _ ih =>
      obtain ⟨hhead, htail⟩ := forall_mem_cons.mp hstep
      rw [map_cons, map_cons, hhead _ hb, ih htail]

/-- The same where not every result has something to read off. -/
theorem filterMap_eq_of_mapM_eq_ok {γ : Type} {f : α → Except ε β} {l : List α} {bs : List β}
    (h : l.mapM f = .ok bs) {before : α → Option γ} {after : β → Option γ}
    (hstep : ∀ a ∈ l, ∀ b, f a = .ok b → after b = before a) :
    bs.filterMap after = l.filterMap before := by
  have hmap := congrArg (filterMap id) (map_eq_of_mapM_eq_ok h hstep)
  simpa [filterMap_map] using hmap

/-- A walk ends as its steps do: with results that are each right for their entry, or as a step that
fails. -/
theorem mapM_ends {P : ε → Prop} {R : α → β → Prop} {f : α → Except ε β} {l : List α}
    (h : ∀ a ∈ l, (f a).Ends (R a) P) : (l.mapM f).Ends (Forall₂ R l) P := by
  induction l with
  | nil => exact .pure .nil
  | cons a l ih =>
      obtain ⟨ha, hl⟩ := forall_mem_cons.mp h
      rw [mapM_cons]
      exact ha.bind fun b hb => (ih hl).bind fun bs hbs => .pure (.cons hb hbs)

/-- A walk that carries a state along preserves an invariant of its steps or ends as a step that
fails. -/
theorem foldlM_ends {P : ε → Prop} {f : β → α → Except ε β} {l : List α} (I : List α → β → Prop)
    (step : ∀ done a rest s, l = done ++ a :: rest → I done s → (f s a).Ends (I (done ++ [a])) P)
    {s : β} (h₀ : I [] s) : (l.foldlM f s).Ends (I l) P := by
  suffices walk : ∀ rest done s, l = done ++ rest → I done s → (rest.foldlM f s).Ends (I l) P from
    walk l [] s rfl h₀
  intro rest
  induction rest with
  | nil =>
      intro done s hl hI
      exact .pure (by rwa [hl, append_nil])
  | cons a rest ih =>
      intro done s hl hI
      rw [foldlM_cons]
      exact (step done a rest s hl hI).bind fun next hnext =>
        ih (done ++ [a]) next (by simp [hl]) hnext

/-- **What every successful step preserves** holds after a successful walk. The invariant may speak
of the entries that lie behind. -/
theorem foldlM_invariant {f : β → α → Except ε β} {l : List α} (I : List α → β → Prop)
    (step : ∀ done a rest s s', l = done ++ a :: rest → I done s → f s a = .ok s' →
      I (done ++ [a]) s')
    {s s' : β} (h : l.foldlM f s = .ok s') (h₀ : I [] s) : I l s' := by
  have hwalk : (l.foldlM f s).Ends (I l) (fun _ => True) :=
    foldlM_ends I (fun done a rest s hl hI =>
      ⟨fun s' hs' => step done a rest s s' hl hI hs', fun _ _ => trivial⟩) h₀
  exact hwalk.1 s' h

/-- **A walk succeeds** when no step fails on a state that satisfies an invariant of the steps. -/
theorem foldlM_succeeds {f : β → α → Except ε β} {l : List α} (I : List α → β → Prop)
    (step : ∀ done a rest s, l = done ++ a :: rest → I done s →
      ∃ s', f s a = .ok s' ∧ I (done ++ [a]) s')
    {s : β} (h₀ : I [] s) : ∃ s', l.foldlM f s = .ok s' := by
  have hwalk : (l.foldlM f s).Ends (I l) (fun _ => False) :=
    foldlM_ends I (fun done a rest s hl hI => by
      obtain ⟨s', hs', hI'⟩ := step done a rest s hl hI
      exact .of_eq_ok hs' hI') h₀
  cases hresult : l.foldlM f s with
  | ok s' => exact ⟨s', rfl⟩
  | error e => exact (hwalk.2 e hresult).elim

/-- A walk of checks fails as one of them does. -/
theorem forM_failsOnly {P : ε → Prop} {check : α → Except ε Unit} {l : List α}
    (h : ∀ a ∈ l, (check a).FailsOnly P) : (l.forM check).FailsOnly P := by
  induction l with
  | nil => exact .pure ()
  | cons a l ih =>
      obtain ⟨ha, hl⟩ := forall_mem_cons.mp h
      rw [List.forM]
      exact ha.bind fun _ _ => ih hl

/-- A walk fails as one of its steps does. -/
theorem mapM_failsOnly {P : ε → Prop} {f : α → Except ε β} {l : List α}
    (h : ∀ a ∈ l, (f a).FailsOnly P) : (l.mapM f).FailsOnly P := by
  have hends : ∀ a ∈ l, (f a).Ends (fun _ => True) P := fun a ha => ⟨fun _ _ => trivial, h a ha⟩
  exact (mapM_ends hends).2

/-- A walk that carries a state along fails as one of its steps does. -/
theorem foldlM_failsOnly {P : ε → Prop} {f : β → α → Except ε β} {l : List α}
    (h : ∀ a ∈ l, ∀ s, (f s a).FailsOnly P) (s : β) : (l.foldlM f s).FailsOnly P := by
  have hends : ∀ a ∈ l, ∀ s, (f s a).Ends (fun _ => True) P :=
    fun a ha s => ⟨fun _ _ => trivial, h a ha s⟩
  exact (foldlM_ends (fun _ _ => True) (fun _ a _ s hl _ => hends a (by simp [hl]) s) trivial).2

end List
