import Mathlib.Tactic.Common
import StorageAdapter.Action

/-! # How actions end

`Ends P act Q E` says of an action begun in a state of `P` that it ends in `Q` with its value or in
`E` with its error; since nothing is rolled back, the two are said apart. `Keeps P act` is the case
where all three are the same. `Shadows f x y` says of two actions that the second one does to the
image of a state what the first one does to the state; `Commutes f act` is the case where they are
the same. The rules below take an action apart the way it is put together, and `after` is computed
along with them. -/

namespace StorageAdapter.Action

variable {σ τ α β : Type}

/-! ### The state after an action -/

theorem bind_apply (x : Action σ α) (f : α → Action σ β) (s : σ) :
    (x >>= f) s = match x s with
      | .ok a t => f a t
      | .error e t => .error e t := by
  show EStateM.bind x f s = _
  unfold EStateM.bind
  rcases x s with ⟨a, t⟩ | ⟨e, t⟩ <;> rfl

@[simp] theorem pure_apply (a : α) (s : σ) : (pure a : Action σ α) s = .ok a s := rfl

@[simp] theorem throw_apply (e : Error) (s : σ) : (throw e : Action σ α) s = .error e s := rfl

@[simp] theorem get_apply (s : σ) : (get : Action σ σ) s = .ok s s := rfl

@[simp] theorem set_apply (t s : σ) : (set t : Action σ PUnit) s = .ok ⟨⟩ t := rfl

@[simp] theorem modify_apply (f : σ → σ) (s : σ) :
    (modify f : Action σ PUnit) s = .ok ⟨⟩ (f s) := rfl

@[simp] theorem lift_ok_apply (a : α) (s : σ) :
    (liftM (Except.ok a : Except Error α) : Action σ α) s = .ok a s := rfl

@[simp] theorem lift_error_apply (e : Error) (s : σ) :
    (liftM (Except.error e : Except Error α) : Action σ α) s = .error e s := rfl

/-- What is done when an action ends is done whichever way it ends. -/
theorem tryFinally_modify_apply (x : Action σ α) (f : σ → σ) (s : σ) :
    (try x finally modify f) s = match x s with
      | .ok a t => .ok a (f t)
      | .error e t => .error e (f t) := by
  show EStateM.map Prod.fst (tryFinally' x fun _ => modify f) s = _
  unfold EStateM.map tryFinally' EStateM.instMonadFinally
  dsimp only
  rcases x s with ⟨a, t⟩ | ⟨e, t⟩ <;> rfl

theorem ok_bind (a : α) (f : α → Except Error β) :
    (Except.ok a : Except Error α) >>= f = f a := rfl

theorem bind_eq_ok_iff {x : Except Error α} {f : α → Except Error β} {b : β} :
    x >>= f = .ok b ↔ ∃ a, x = .ok a ∧ f a = .ok b := by
  rcases x with e | a
  · exact ⟨nofun, nofun⟩
  · exact ⟨fun h => ⟨a, rfl, h⟩, fun ⟨_, ha, h⟩ => Except.ok.inj ha ▸ h⟩

theorem lift_ok_bind (a : α) (f : α → Action σ β) :
    (liftM (Except.ok a : Except Error α) : Action σ α) >>= f = f a := rfl

theorem ite_bind {c : Prop} {_ : Decidable c} (x y : Action σ α) (f : α → Action σ β) :
    (if c then x else y) >>= f = if c then x >>= f else y >>= f := apply_ite (· >>= f) c x y

theorem after_of_ok {x : Action σ α} {a : α} {s t : σ} (h : x s = .ok a t) : x.after s = t := by
  unfold after
  rw [h]

theorem after_of_error {x : Action σ α} {e : Error} {s t : σ} (h : x s = .error e t) :
    x.after s = t := by
  unfold after
  rw [h]

theorem after_congr {x y : Action σ α} {s t : σ} (h : x s = y t) : x.after s = y.after t := by
  unfold after
  rw [h]

theorem outcome_congr {x y : Action σ α} {s t : σ} (h : x s = y t) :
    x.outcome s = y.outcome t := by
  unfold outcome
  rw [h]

theorem eq_error_of_outcome {x : Action σ α} {e : Error} {s : σ} (h : x.outcome s = .error e) :
    x s = .error e (x.after s) := by
  unfold outcome at h
  unfold after
  rcases hx : x s with ⟨a, t⟩ | ⟨e', t⟩ <;> rw [hx] at h <;> cases h
  rfl

theorem after_bind (x : Action σ α) (f : α → Action σ β) (s : σ) :
    (x >>= f).after s = match x s with
      | .ok a t => (f a).after t
      | .error _ t => t := by
  unfold after
  rw [bind_apply]
  rcases x s with ⟨a, t⟩ | ⟨e, t⟩ <;> rfl

theorem after_bind_pure (x : Action σ α) (f : α → β) (s : σ) :
    (x >>= fun a => pure (f a)).after s = x.after s := by
  rw [after_bind]
  unfold after
  rcases x s with ⟨a, t⟩ | ⟨e, t⟩ <;> rfl

theorem after_get_bind (f : σ → Action σ β) (s : σ) :
    ((get : Action σ σ) >>= f).after s = (f s).after s := rfl

theorem after_lift_ok (a : α) (f : α → Action σ β) (s : σ) :
    ((liftM (Except.ok a : Except Error α) : Action σ α) >>= f).after s = (f a).after s := rfl

theorem after_on (part : σ → τ) (put : τ → σ → σ) (act : Action τ α) (s : σ) :
    (on part put act).after s = put (act.after (part s)) s := by
  unfold after on
  rcases act (part s) with ⟨a, t⟩ | ⟨e, t⟩ <;> rfl

/-! ### Lists of checks -/

section Checks

variable {f : α → Except Error β} {l : List α}

theorem mapM_eq_ok {g : α → β} (h : ∀ a ∈ l, f a = .ok (g a)) : l.mapM f = .ok (l.map g) := by
  induction l with
  | nil => rfl
  | cons a l ih =>
    have ha := h a List.mem_cons_self
    have hl := ih fun b hb => h b (List.mem_cons_of_mem _ hb)
    rw [List.mapM_cons, ha, ok_bind, hl]
    rfl

theorem exists_ok_of_mapM {l' : List β} (h : l.mapM f = .ok l') : ∀ a ∈ l, ∃ b, f a = .ok b := by
  induction l generalizing l' with
  | nil => exact fun a ha => absurd ha List.not_mem_nil
  | cons x l ih =>
    rw [List.mapM_cons] at h
    obtain ⟨y, hx, h⟩ := bind_eq_ok_iff.1 h
    obtain ⟨ys, hl, -⟩ := bind_eq_ok_iff.1 h
    intro a ha
    rcases List.mem_cons.1 ha with rfl | ha
    · exact ⟨y, hx⟩
    · exact ih hl a ha

theorem exists_error_of_mapM {e : Error} (h : l.mapM f = .error e) : ∃ a ∈ l, f a = .error e := by
  induction l with
  | nil => cases h
  | cons x l ih =>
    rw [List.mapM_cons] at h
    rcases hx : f x with e' | y
    · rw [hx] at h
      obtain rfl : e' = e := Except.error.inj h
      exact ⟨x, List.mem_cons_self, hx⟩
    · rw [hx, ok_bind] at h
      rcases hl : l.mapM f with e' | ys
      · rw [hl] at h
        obtain rfl : e' = e := Except.error.inj h
        obtain ⟨a, ha, he⟩ := ih hl
        exact ⟨a, List.mem_cons_of_mem x ha, he⟩
      · rw [hl] at h
        cases h

/-- If all checks fail with the same error, one that fails is the error of the whole list. -/
theorem mapM_eq_error {e : Error} (hf : ∀ a, f a = .error e ∨ ∃ b, f a = .ok b) {a : α}
    (ha : a ∈ l) (herr : f a = .error e) : l.mapM f = .error e := by
  induction l with
  | nil => exact absurd ha List.not_mem_nil
  | cons x l ih =>
    rw [List.mapM_cons]
    obtain hx | ⟨b, hx⟩ := hf x
    · rw [hx]
      rfl
    · have hne : a ≠ x := by
        rintro rfl
        cases herr.symm.trans hx
      rw [hx, ok_bind, ih ((List.mem_cons.1 ha).resolve_left hne)]
      rfl

end Checks

/-! ### Ends and keeps -/

/-- Begun in a state of `P`, the action ends in `Q` with its value or in `E` with its error. -/
def Ends (P : σ → Prop) (act : Action σ α) (Q : α → σ → Prop) (E : Error → σ → Prop) : Prop :=
  ∀ s, P s → match act s with
    | .ok a t => Q a t
    | .error e t => E e t

/-- Begun in a state of `P`, the action ends in one, whether it fails or not. -/
def Keeps (P : σ → Prop) (act : Action σ α) : Prop := Ends P act (fun _ => P) fun _ => P

section Rules

variable {P P' : σ → Prop} {Q Q' : α → σ → Prop} {R : β → σ → Prop} {E E' : Error → σ → Prop}

theorem keeps_iff {act : Action σ α} : Keeps P act ↔ ∀ s, P s → P (act.after s) := by
  refine forall_congr' fun s => imp_congr_right fun _ => ?_
  unfold after
  rcases act s with ⟨a, t⟩ | ⟨e, t⟩ <;> rfl

/-- An action ends in a state where both of its ends agree on what holds. -/
theorem ends_after {Z : σ → Prop} {act : Action σ α} :
    Ends P act (fun _ => Z) (fun _ => Z) ↔ ∀ s, P s → Z (act.after s) := by
  refine forall_congr' fun s => imp_congr_right fun _ => ?_
  unfold after
  rcases act s with ⟨a, t⟩ | ⟨e, t⟩ <;> rfl

theorem Ends.ok {act : Action σ α} (h : Ends P act Q E) {s t : σ} {a : α} (hs : P s)
    (ha : act s = .ok a t) : Q a t := by
  have h := h s hs
  rw [ha] at h
  exact h

theorem Ends.mono {act : Action σ α} (h : Ends P act Q E) (hP : ∀ s, P' s → P s)
    (hQ : ∀ a s, Q a s → Q' a s) (hE : ∀ e s, E e s → E' e s) : Ends P' act Q' E' := by
  intro s hs
  have := h s (hP s hs)
  rcases hact : act s with ⟨a, t⟩ | ⟨e, t⟩ <;> rw [hact] at this
  · exact hQ a t this
  · exact hE e t this

/-- What an action does to two predicates, it does to both together. -/
theorem Ends.and {act : Action σ α} (h : Ends P act Q E) (h' : Ends P' act Q' E') :
    Ends (fun s => P s ∧ P' s) act (fun a s => Q a s ∧ Q' a s) fun e s => E e s ∧ E' e s := by
  intro s hs
  have hleft := h s hs.1
  have hright := h' s hs.2
  rcases hact : act s with ⟨a, t⟩ | ⟨e, t⟩ <;> rw [hact] at hleft hright <;>
    exact ⟨hleft, hright⟩

theorem ends_pure {a : α} (h : ∀ s, P s → Q a s) : Ends P (pure a) Q E := h

theorem ends_throw {e : Error} (h : ∀ s, P s → E e s) : Ends P (throw e : Action σ α) Q E := h

theorem ends_lift {r : Except Error α} (hok : ∀ a, r = .ok a → ∀ s, P s → Q a s)
    (herr : ∀ e, r = .error e → ∀ s, P s → E e s) : Ends P (liftM r : Action σ α) Q E := by
  intro s hs
  rcases r with e | a
  · exact herr e rfl s hs
  · exact hok a rfl s hs

theorem ends_get {Q : σ → σ → Prop} (h : ∀ s, P s → Q s s) : Ends P (get : Action σ σ) Q E := h

theorem ends_modify {Z : σ → Prop} {f : σ → σ} (h : ∀ s, P s → Z (f s)) :
    Ends P (modify f : Action σ PUnit) (fun _ => Z) E := h

theorem Ends.bind {x : Action σ α} {f : α → Action σ β} (hx : Ends P x Q E)
    (hf : ∀ a, Ends (Q a) (f a) R E) : Ends P (x >>= f) R E := by
  intro s hs
  have h := hx s hs
  rw [bind_apply]
  rcases hact : x s with ⟨a, t⟩ | ⟨e, t⟩ <;> rw [hact] at h
  · exact hf a t h
  · exact h

theorem Ends.ite {c : Prop} {_ : Decidable c} {x y : Action σ α} (hx : c → Ends P x Q E)
    (hy : ¬c → Ends P y Q E) : Ends P (if c then x else y) Q E := by
  by_cases hc : c
  · rw [if_pos hc]
    exact hx hc
  · rw [if_neg hc]
    exact hy hc

/-- A check that stops the action changes nothing by itself. -/
theorem Ends.guard {c : Prop} {_ : Decidable c} {e : Error} {f : PUnit → Action σ β}
    (herr : c → ∀ s, P s → E e s) (h : ¬c → Ends P (f ⟨⟩) R E) :
    Ends P (if c then (throw e : Action σ PUnit) >>= f else f ⟨⟩) R E := by
  by_cases hc : c
  · rw [if_pos hc]
    exact fun s hs => herr hc s hs
  · rw [if_neg hc]
    exact h hc

theorem Keeps.bind_pure {x : Action σ α} {f : α → β} (hx : Keeps P x) :
    Keeps P (x >>= fun a => pure (f a)) :=
  Ends.bind hx fun _ => ends_pure fun _ h => h

theorem Keeps.lift (r : Except Error α) : Keeps P (liftM r : Action σ α) :=
  ends_lift (fun _ _ _ h => h) fun _ _ _ h => h

theorem Keeps.bind {x : Action σ α} {f : α → Action σ β} (hx : Keeps P x)
    (hf : ∀ a, Keeps P (f a)) : Keeps P (x >>= f) := Ends.bind hx hf

theorem Keeps.guard {c : Prop} {_ : Decidable c} {e : Error} {f : PUnit → Action σ β}
    (h : ¬c → Keeps P (f ⟨⟩)) : Keeps P (if c then (throw e : Action σ PUnit) >>= f else f ⟨⟩) :=
  Ends.guard (fun _ _ hs => hs) h

theorem Keeps.get : Keeps P (get : Action σ σ) := ends_get fun _ h => h

theorem Keeps.pure (a : α) : Keeps P (pure a : Action σ α) := ends_pure fun _ h => h

theorem Keeps.throw (e : Error) : Keeps P (throw e : Action σ α) := ends_throw fun _ h => h

theorem ends_attempt {act : Action σ α} {Z : Except Error α → σ → Prop}
    (h : Ends P act (fun a => Z (.ok a)) fun e => Z (.error e)) : Ends P act.attempt Z E := by
  intro s hs
  have := h s hs
  unfold attempt
  rcases hact : act s with ⟨a, t⟩ | ⟨e, t⟩ <;> rw [hact] at this <;> exact this

/-- On a part of the state, an action does to the part what it does alone. -/
theorem ends_on {part : σ → τ} {put : τ → σ → σ} {act : Action τ α}
    (h : ∀ s, P s → match act (part s) with
      | .ok a t => Q a (put t s)
      | .error e t => E e (put t s)) : Ends P (on part put act) Q E := by
  intro s hs
  have := h s hs
  unfold on
  rcases hact : act (part s) with ⟨a, t⟩ | ⟨e, t⟩ <;> rw [hact] at this <;> exact this

end Rules

/-! ### The same on another state -/

/-- The second action does to the image of a state what the first one does to the state: it ends in
the same way, and in the image of the state that the first one ends in. -/
def Shadows (f : σ → τ) (x : Action σ α) (y : Action τ α) : Prop :=
  ∀ s, y (f s) = match x s with
    | .ok a t => .ok a (f t)
    | .error e t => .error e (f t)

section Shadows

variable {f : σ → τ}

theorem Shadows.refl (act : Action σ α) : Shadows id act act := by
  intro s
  rcases h : act s with ⟨a, t⟩ | ⟨e, t⟩ <;> exact h

theorem Shadows.after_eq {x : Action σ α} {y : Action τ α} (h : Shadows f x y) (s : σ) :
    y.after (f s) = f (x.after s) := by
  unfold after
  rw [h s]
  rcases x s with ⟨a, t⟩ | ⟨e, t⟩ <;> rfl

theorem Shadows.outcome_eq {x : Action σ α} {y : Action τ α} (h : Shadows f x y) (s : σ) :
    y.outcome (f s) = x.outcome s := by
  unfold outcome
  rw [h s]
  rcases x s with ⟨a, t⟩ | ⟨e, t⟩ <;> rfl

theorem Shadows.bind {x : Action σ α} {y : Action τ α} {k : α → Action σ β} {l : α → Action τ β}
    (hx : Shadows f x y) (hk : ∀ a, Shadows f (k a) (l a)) : Shadows f (x >>= k) (y >>= l) := by
  intro s
  rw [bind_apply, bind_apply, hx s]
  rcases x s with ⟨a, t⟩ | ⟨e, t⟩
  · exact hk a t
  · rfl

theorem Shadows.bind_pure {x : Action σ α} {y : Action τ α} {k : α → β} (hx : Shadows f x y) :
    Shadows f (x >>= fun a => pure (k a)) (y >>= fun a => pure (k a)) := hx.bind fun _ _ => rfl

/-- An action shadows another one if it does so with values from which those of the action can be
told. -/
theorem Shadows.of_bind_pure {x : Action σ α} {y : Action τ α} {k : α → β}
    (hk : Function.Injective k)
    (h : Shadows f (x >>= fun a => pure (k a)) (y >>= fun a => pure (k a))) : Shadows f x y := by
  intro s
  have hs := h s
  rw [bind_apply, bind_apply] at hs
  generalize x s = p, y (f s) = q at hs ⊢
  rcases p with ⟨a, t⟩ | ⟨e, t⟩ <;> rcases q with ⟨b, u⟩ | ⟨e', u⟩ <;>
    simp only [pure_apply, EStateM.Result.ok.injEq, EStateM.Result.error.injEq,
      reduceCtorEq] at hs ⊢
  · exact ⟨hk hs.1, hs.2⟩
  · exact hs

theorem shadows_get_bind {k : σ → Action σ α} {l : τ → Action τ α}
    (h : ∀ s, Shadows f (k s) (l (f s))) :
    Shadows f ((get : Action σ σ) >>= k) ((get : Action τ τ) >>= l) := fun s => h s s

theorem shadows_modify {g : σ → σ} {h : τ → τ} (hg : ∀ s, h (f s) = f (g s)) :
    Shadows f (modify g : Action σ PUnit) (modify h : Action τ PUnit) := fun s =>
  congrArg (EStateM.Result.ok PUnit.unit) (hg s)

theorem Shadows.ite {c : Prop} {_ : Decidable c} {x x' : Action σ α} {y y' : Action τ α}
    (hx : Shadows f x y) (hx' : Shadows f x' y') :
    Shadows f (if c then x else x') (if c then y else y') := by
  by_cases hc : c
  · rw [if_pos hc, if_pos hc]
    exact hx
  · rw [if_neg hc, if_neg hc]
    exact hx'

theorem Shadows.guard {c : Prop} {_ : Decidable c} {e : Error} {k : PUnit → Action σ β}
    {l : PUnit → Action τ β} (h : Shadows f (k ⟨⟩) (l ⟨⟩)) :
    Shadows f (if c then (throw e : Action σ PUnit) >>= k else k ⟨⟩)
      (if c then (throw e : Action τ PUnit) >>= l else l ⟨⟩) :=
  Shadows.ite (fun _ => rfl) h

theorem Shadows.attempt {x : Action σ α} {y : Action τ α} (h : Shadows f x y) :
    Shadows f x.attempt y.attempt := by
  intro s
  unfold Action.attempt
  rw [h s]
  rcases x s with ⟨a, t⟩ | ⟨e, t⟩ <;> rfl

/-- On parts of the states, actions do what they do to the parts alone. -/
theorem shadows_on {ρ υ : Type} {g : ρ → υ} {part : σ → ρ} {put : ρ → σ → σ} {part' : τ → υ}
    {put' : υ → τ → τ} {x : Action ρ α} {y : Action υ α} (hx : Shadows g x y)
    (hpart : ∀ s, part' (f s) = g (part s)) (hput : ∀ t s, put' (g t) (f s) = f (put t s)) :
    Shadows f (on part put x) (on part' put' y) := by
  intro s
  unfold on
  rw [hpart, hx]
  rcases x (part s) with ⟨a, t⟩ | ⟨e, t⟩
  · exact congrArg _ (hput t s)
  · exact congrArg _ (hput t s)

theorem Shadows.pure (a : α) : Shadows f (pure a : Action σ α) (pure a) := fun _ => rfl

theorem Shadows.throw (e : Error) : Shadows f (throw e : Action σ α) (throw e) := fun _ => rfl

theorem Shadows.lift (r : Except Error α) :
    Shadows f (liftM r : Action σ α) (liftM r : Action τ α) := by
  rcases r with e | a
  · exact Shadows.throw e
  · exact Shadows.pure a

/-- An argument does not come from the state. -/
theorem Shadows.argument {x : Except Error α} {k : α → Action σ β} {l : α → Action τ β}
    (hk : ∀ a, Shadows f (k a) (l a)) : Shadows f (liftM x >>= k) (liftM x >>= l) :=
  (Shadows.lift x).bind hk

end Shadows

/-! ### What an action does not look at -/

/-- The action does not look at what `f` changes, and leaves that as it is: behind `f` it ends as it
would have ended without it. -/
def Commutes (f : σ → σ) (act : Action σ α) : Prop := Shadows f act act

section Commutes

variable {f : σ → σ}

theorem Commutes.after_eq {act : Action σ α} (h : Commutes f act) (s : σ) :
    act.after (f s) = f (act.after s) := Shadows.after_eq h s

/-- The action may read from the state what `f` does not change. -/
theorem commutes_get_bind {k : σ → Action σ α} (hk : ∀ s, k (f s) = k s)
    (h : ∀ s, Commutes f (k s)) : Commutes f ((get : Action σ σ) >>= k) :=
  shadows_get_bind fun s => (hk s).symm ▸ h s

theorem Commutes.pure (a : α) : Commutes f (pure a : Action σ α) := Shadows.pure a

theorem Commutes.throw (e : Error) : Commutes f (throw e : Action σ α) := Shadows.throw e

theorem Commutes.lift (r : Except Error α) : Commutes f (liftM r : Action σ α) := Shadows.lift r

end Commutes

/-! ### Two runs side by side -/

/-- Two ends with the same value or the same error, in related states. -/
inductive SameEnds (rel : σ → σ → Prop) :
    EStateM.Result Error σ α → EStateM.Result Error σ α → Prop
  | ok (a : α) {s t : σ} (h : rel s t) : SameEnds rel (.ok a s) (.ok a t)
  | error (e : Error) {s t : σ} (h : rel s t) : SameEnds rel (.error e s) (.error e t)

/-- The action does not tell related states apart: begun in either of them it ends in the same way,
and in related states again. -/
def Respects (rel : σ → σ → Prop) (act : Action σ α) : Prop :=
  ∀ s t, rel s t → SameEnds rel (act s) (act t)

section Respects

variable {rel : σ → σ → Prop}

theorem SameEnds.refl (hrefl : ∀ s, rel s s) (r : EStateM.Result Error σ α) : SameEnds rel r r := by
  rcases r with ⟨a, s⟩ | ⟨e, s⟩
  · exact .ok a (hrefl s)
  · exact .error e (hrefl s)

theorem Respects.after {act : Action σ α} (h : Respects rel act) {s t : σ} (hst : rel s t) :
    rel (act.after s) (act.after t) := by
  have hends := h s t hst
  unfold Action.after
  generalize act s = x, act t = y at hends ⊢
  cases hends with
  | ok a hrel => exact hrel
  | error e hrel => exact hrel

theorem Respects.pure (a : α) : Respects rel (pure a : Action σ α) := fun _ _ h => .ok a h

theorem Respects.throw (e : Error) : Respects rel (throw e : Action σ α) := fun _ _ h => .error e h

theorem Respects.bind {x : Action σ α} {k : α → Action σ β} (hx : Respects rel x)
    (hk : ∀ a, Respects rel (k a)) : Respects rel (x >>= k) := by
  intro s t hst
  have hends := hx s t hst
  rw [bind_apply, bind_apply]
  generalize x s = p, x t = q at hends ⊢
  cases hends with
  | ok a hrel => exact hk a _ _ hrel
  | error e hrel => exact .error e hrel

theorem Respects.bind_pure {x : Action σ α} {k : α → β} (hx : Respects rel x) :
    Respects rel (x >>= fun a => Pure.pure (k a)) := hx.bind fun _ => .pure _

theorem Respects.lift (r : Except Error α) : Respects rel (liftM r : Action σ α) := by
  rcases r with e | a
  · exact Respects.throw e
  · exact Respects.pure a

theorem Respects.argument {x : Except Error α} {k : α → Action σ β}
    (hk : ∀ a, Respects rel (k a)) : Respects rel (liftM x >>= k) := (Respects.lift x).bind hk

/-- The action may read from the state what related states agree on. -/
theorem respects_get_bind {k : σ → Action σ α} (hk : ∀ {s t}, rel s t → k s = k t)
    (h : ∀ s, Respects rel (k s)) : Respects rel ((get : Action σ σ) >>= k) := by
  intro s t hst
  show SameEnds rel (k s s) (k t t)
  rw [← hk hst]
  exact h s s t hst

theorem respects_modify {f : σ → σ} (h : ∀ {s t}, rel s t → rel (f s) (f t)) :
    Respects rel (modify f : Action σ PUnit) := fun _ _ hst => .ok _ (h hst)

end Respects

end StorageAdapter.Action
