import Mathlib.Data.List.Forall2
import Mathlib.Data.List.Induction

/-!
# Results that may be errors

When a step that may fail has succeeded and when it has failed, and where a check that
goes through a list fails.
-/

namespace WebClient

namespace Outcome

variable {ε ε' α β : Type}

@[simp] theorem pure_eq_ok {a b : α} : (pure a : Except ε α) = .ok b ↔ a = b :=
  Except.ok.injEq a b ▸ Iff.rfl

/-- Two steps succeed when the first one does and the second one does after it. -/
theorem bind_eq_ok {x : Except ε α} {f : α → Except ε β} {b : β} :
    x >>= f = .ok b ↔ ∃ a, x = .ok a ∧ f a = .ok b := by
  cases x with
  | error e => simp [bind, Except.bind]
  | ok a => simp [bind, Except.bind]

/-- A result that is seen to be no error and to have a property. -/
theorem exists_ok_of_any {x : Except ε α} {p : α → Bool} (h : x.toOption.any p = true) :
    ∃ a, x = .ok a ∧ p a = true := by
  cases x with
  | error e => cases h
  | ok a => exact ⟨a, rfl, h⟩

/-- A result that is seen to be no error. -/
theorem exists_ok_of_isSome {x : Except ε α} (h : x.toOption.isSome = true) :
    ∃ a, x = .ok a := by
  cases x with
  | error e => cases h
  | ok a => exact ⟨a, rfl⟩

theorem bind_of_ok {x : Except ε α} {f : α → Except ε β} {a : α} (h : x = .ok a) :
    x >>= f = f a := by
  rw [h]
  rfl

theorem bind_of_error {x : Except ε α} {f : α → Except ε β} {e : ε} (h : x = .error e) :
    x >>= f = .error e := by
  rw [h]
  rfl

@[simp] theorem map_eq_ok {x : Except ε α} {f : α → β} {b : β} :
    x.map f = .ok b ↔ ∃ a, x = .ok a ∧ f a = b := by
  cases x <;> simp [Except.map]

@[simp] theorem mapError_eq_ok {x : Except ε α} {f : ε → ε'} {a : α} :
    x.mapError f = .ok a ↔ x = .ok a := by
  cases x with
  | error e =>
      show (Except.error (f e) : Except ε' α) = .ok a ↔ _
      simp
  | ok b =>
      show (Except.ok b : Except ε' α) = .ok a ↔ _
      simp

/-! ## Failure -/

theorem bind_eq_error {x : Except ε α} {f : α → Except ε β} {e : ε} :
    x >>= f = .error e ↔ x = .error e ∨ ∃ a, x = .ok a ∧ f a = .error e := by
  cases x with
  | error e' => simp [bind, Except.bind]
  | ok a => simp [bind, Except.bind]

theorem mapError_eq_error {x : Except ε α} {f : ε → ε'} {e : ε'} :
    x.mapError f = .error e ↔ ∃ e', x = .error e' ∧ f e' = e := by
  cases x with
  | error e' =>
      show (Except.error (f e') : Except ε' α) = .error e ↔ _
      simp
  | ok a =>
      show (Except.ok a : Except ε' α) = .error e ↔ _
      simp

theorem map_eq_error {x : Except ε α} {f : α → β} {e : ε} :
    x.map f = .error e ↔ x = .error e := by
  cases x <;> simp [Except.map]

/-- A check that goes through a list fails at the member behind the longest front that
passes. -/
theorem eq_error_of_concat {check : List α → Except ε β}
    {next : List α → β → α → Except ε β} {start : β} (hnil : check [] = .ok start)
    (hconcat : ∀ front x, check (front ++ [x]) = check front >>= fun b => next front b x)
    {xs : List α} {e : ε} :
    check xs = .error e ↔ ∃ front x rest b, xs = front ++ x :: rest ∧ check front = .ok b ∧
      next front b x = .error e := by
  induction xs using List.reverseRecOn with
  | nil => simp [hnil]
  | append_singleton init last ih =>
      rw [hconcat, bind_eq_error, ih]
      constructor
      · rintro (⟨front, x, rest, b, rfl, hfront, hx⟩ | ⟨b, hinit, hlast⟩)
        · exact ⟨front, x, rest ++ [last], b, by simp, hfront, hx⟩
        · exact ⟨init, last, [], b, rfl, hinit, hlast⟩
      · rintro ⟨front, x, rest, b, hsplit, hfront, hx⟩
        rcases List.eq_nil_or_concat rest with rfl | ⟨rest, y, rfl⟩
        · obtain ⟨rfl, hlast⟩ := List.append_inj' hsplit rfl
          obtain rfl := List.singleton_inj.1 hlast
          exact Or.inr ⟨b, hfront, hx⟩
        · rw [List.concat_eq_append, ← List.cons_append, ← List.append_assoc] at hsplit
          obtain ⟨rfl, -⟩ := List.append_inj' hsplit rfl
          exact Or.inl ⟨front, x, rest, b, rfl, hfront, hx⟩

/-! ## What a success ensures -/

/-- What holds of the value of a step that may fail whenever it succeeds. -/
def Ensures (x : Except ε α) (P : α → Prop) : Prop := ∀ a, x = .ok a → P a

theorem ensures_pure {P : α → Prop} {a : α} (h : P a) : Ensures (pure a : Except ε α) P := by
  intro b hb
  exact pure_eq_ok.1 hb ▸ h

/-- What the second step ensures holds after both, whatever the first one does. -/
theorem ensures_bind {P : β → Prop} {x : Except ε α} {f : α → Except ε β}
    (h : ∀ a, Ensures (f a) P) : Ensures (x >>= f) P := by
  intro b hb
  obtain ⟨a, -, hf⟩ := bind_eq_ok.1 hb
  exact h a b hf

theorem ensures_ite {P : α → Prop} {c : Prop} [Decidable c] {x y : Except ε α}
    (hx : Ensures x P) (hy : Ensures y P) : Ensures (if c then x else y) P := by
  split
  · exact hx
  · exact hy

/-! ## Lists of results -/

/-- A list of results of one function holds no error when the list that the function
is applied to holds none. -/
theorem map_map_eq_ok {f : α → β} {xs : List (Except ε α)} {cs : List β} :
    xs.map (Except.map f) = cs.map .ok ↔ ∃ ys : List α, xs = ys.map .ok ∧ cs = ys.map f := by
  induction xs generalizing cs with
  | nil =>
      constructor
      · intro h
        have hcs : cs = [] := by simpa [eq_comm] using h
        exact ⟨[], rfl, hcs⟩
      · rintro ⟨ys, hxs, rfl⟩
        have hys : ys = [] := by simpa [eq_comm] using hxs
        rw [hys]
        rfl
  | cons x xs ih =>
      constructor
      · intro h
        cases cs with
        | nil => exact absurd h (by simp)
        | cons c cs =>
            rw [List.map_cons, List.map_cons, List.cons.injEq] at h
            obtain ⟨y, rfl, rfl⟩ := Outcome.map_eq_ok.1 h.1
            obtain ⟨ys, rfl, rfl⟩ := ih.1 h.2
            exact ⟨y :: ys, rfl, rfl⟩
      · rintro ⟨ys, hxs, rfl⟩
        cases ys with
        | nil => exact absurd hxs (by simp)
        | cons y ys =>
            rw [List.map_cons, List.cons.injEq] at hxs
            obtain ⟨rfl, hrest⟩ := hxs
            have htail := ih.2 ⟨ys, hrest, rfl⟩
            rw [List.map_cons, htail]
            rfl

/-- The results of a function on a list are values when each of them is. -/
theorem map_eq_map_ok {f : α → Except ε β} {xs : List α} {ys : List β} :
    xs.map f = ys.map .ok ↔ List.Forall₂ (fun x y => f x = .ok y) xs ys := by
  rw [← List.forall₂_eq_eq_eq, List.forall₂_map_left_iff, List.forall₂_map_right_iff]

/-- A list of results without errors is a list of values. -/
theorem exists_eq_map_ok {xs : List (Except ε α)} (h : ∀ x ∈ xs, ∃ a, x = .ok a) :
    ∃ as : List α, xs = as.map .ok := by
  induction xs with
  | nil => exact ⟨[], rfl⟩
  | cons x xs ih =>
      obtain ⟨a, rfl⟩ := h x List.mem_cons_self
      obtain ⟨as, rfl⟩ := ih fun y hy => h y (List.mem_cons_of_mem _ hy)
      exact ⟨a :: as, rfl⟩

/-- What is changed in each of some results can be changed in all of them afterwards. -/
theorem mapM_map {γ : Type} (f : γ → Except ε α) (g : α → β) (xs : List γ) :
    xs.mapM (fun x => (f x).map g) = (xs.mapM f).map (List.map g) := by
  induction xs with
  | nil => rfl
  | cons x xs ih =>
      rw [List.mapM_cons, List.mapM_cons, ih]
      cases f x with
      | error e => rfl
      | ok a => cases xs.mapM f <;> rfl

/-- A list is gone through without an error when each of its members is. -/
theorem mapM_eq_ok {f : α → Except ε β} {xs : List α} {ys : List β} :
    xs.mapM f = .ok ys ↔ List.Forall₂ (fun x y => f x = .ok y) xs ys := by
  induction xs generalizing ys with
  | nil =>
      rw [List.mapM_nil, pure_eq_ok, List.forall₂_nil_left_iff]
      exact eq_comm
  | cons x xs ih =>
      rw [List.mapM_cons, bind_eq_ok]
      constructor
      · rintro ⟨y, hy, h⟩
        obtain ⟨rest, hrest, h⟩ := bind_eq_ok.1 h
        rw [pure_eq_ok] at h
        subst h
        exact .cons hy (ih.1 hrest)
      · intro h
        cases h with
        | cons hy hrest => exact ⟨_, hy, bind_eq_ok.2 ⟨_, ih.2 hrest, rfl⟩⟩

/-- A list is gone through for the values that its members may have when none of them fails;
what comes out then are the values that there are. -/
theorem mapM_filterMap_eq_ok {f : α → Except ε (Option β)} {xs : List α} {ys : List β} :
    (xs.mapM f).map (List.filterMap id) = .ok ys ↔
      (∀ x ∈ xs, ∃ y, f x = .ok y) ∧ ys = xs.filterMap fun x => (f x).toOption.join := by
  induction xs generalizing ys with
  | nil => simp [Except.map, pure, Except.pure, eq_comm]
  | cons x xs ih =>
      cases hx : f x with
      | error e =>
          rw [List.mapM_cons, bind_of_error hx]
          simp [Except.map, hx]
      | ok y =>
          have hrest : ((x :: xs).mapM f).map (List.filterMap id) =
              ((xs.mapM f).map (List.filterMap id)).map fun zs => y.toList ++ zs := by
            rw [List.mapM_cons, bind_of_ok hx]
            cases xs.mapM f with
            | error e => rfl
            | ok zs => cases y <;> rfl
          rw [hrest, map_eq_ok, List.forall_mem_cons]
          constructor
          · rintro ⟨zs, hzs, rfl⟩
            obtain ⟨hall, rfl⟩ := ih.1 hzs
            refine ⟨⟨⟨y, hx⟩, hall⟩, ?_⟩
            cases y <;> simp [hx, Except.toOption]
          · rintro ⟨⟨-, hall⟩, rfl⟩
            refine ⟨_, ih.2 ⟨hall, rfl⟩, ?_⟩
            cases y <;> simp [hx, Except.toOption]

/-- A list is gone through when each of its members has a value. -/
theorem mapM_eq_some {f : α → Option β} {xs : List α} {ys : List β} :
    xs.mapM f = some ys ↔ List.Forall₂ (fun x y => f x = some y) xs ys := by
  induction xs generalizing ys with
  | nil => simp [eq_comm]
  | cons x xs ih =>
      rw [List.mapM_cons]
      constructor
      · intro h
        obtain ⟨y, hy, h⟩ := Option.bind_eq_some_iff.1 h
        obtain ⟨rest, hrest, h⟩ := Option.bind_eq_some_iff.1 h
        cases h
        exact .cons hy (ih.1 hrest)
      · intro h
        cases h with
        | cons hy hrest =>
            rw [hy, ih.2 hrest]
            rfl

/-- In lists whose members belong together one by one, each place of the one is a place of
the other. -/
theorem exists_getElem?_of_forall₂ {R : α → β → Prop} {xs : List α} {ys : List β}
    (h : List.Forall₂ R xs ys) {k : Nat} {x : α} (hx : xs[k]? = some x) :
    ∃ y, ys[k]? = some y ∧ R x y := by
  induction h generalizing k with
  | nil => simp at hx
  | @cons first y xs ys hfirst hrest ih =>
      cases k with
      | zero =>
          rw [List.getElem?_cons_zero, Option.some.injEq] at hx
          exact ⟨y, rfl, hx ▸ hfirst⟩
      | succ k => exact ih hx

theorem singleton_eq_map_ok {x : Except ε α} {cs : List α} :
    [x] = cs.map .ok ↔ ∃ c, x = .ok c ∧ cs = [c] := by
  cases cs with
  | nil => simp
  | cons c cs => simp [and_left_comm, eq_comm]

end Outcome

/-- Members of a list have others that they belong to when each of them has one. -/
theorem exists_forall₂_iff {α β : Type} {R : α → β → Prop} {l : List α} :
    (∃ m, List.Forall₂ R l m) ↔ ∀ a ∈ l, ∃ b, R a b := by
  induction l with
  | nil => exact ⟨fun _ _ h => absurd h List.not_mem_nil, fun _ => ⟨[], .nil⟩⟩
  | cons a l ih =>
      rw [List.forall_mem_cons, ← ih]
      constructor
      · rintro ⟨m, h⟩
        cases h with
        | cons hfirst hrest => exact ⟨⟨_, hfirst⟩, ⟨_, hrest⟩⟩
      · rintro ⟨⟨b, hfirst⟩, ⟨m, hrest⟩⟩
        exact ⟨b :: m, .cons hfirst hrest⟩

end WebClient
