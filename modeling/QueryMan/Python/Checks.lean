import Mathlib.Data.List.Basic
import Mathlib.Tactic.Common

/-!
# Checks that raise, and checks that record

`raiseIf c e` is `if c: raise e`; the first lemmas read a successful run of a sequence of such
checks back into what each of them found.

A validator is a sequence of checks that also records what it accepts in a state. `Records` says of
one all there is to know about a successful run: its result `r`, the condition `ok` under which it
succeeds, and the items it `adds` to the state. None of the three depends on the state it starts in,
so the rules below compose them along the shape of the validator.
-/

namespace Python

/-- `if c: raise e`. -/
def raiseIf {ε : Type} {m : Type → Type} [Monad m] [MonadExceptOf ε m] (c : Prop) [Decidable c]
    (e : ε) : m Unit :=
  if c then throw e else pure ()

section
variable {ε ε' α β : Type}

/-- A sequence succeeds when its parts do. -/
theorem bind_eq_ok {x : Except ε α} {f : α → Except ε β} {b : β} :
    (x >>= f) = .ok b ↔ ∃ a, x = .ok a ∧ f a = .ok b := by
  cases x with
  | error e => exact ⟨nofun, fun ⟨_, h, _⟩ => nomatch h⟩
  | ok a => exact ⟨fun h => ⟨a, rfl, h⟩, fun ⟨_, rfl, h⟩ => h⟩

/-- A sequence fails where its first part does, or its second. -/
theorem bind_eq_error {x : Except ε α} {f : α → Except ε β} {e : ε} :
    (x >>= f) = .error e ↔ x = .error e ∨ ∃ a, x = .ok a ∧ f a = .error e := by
  cases x with
  | error e' => exact ⟨fun h => .inl (congrArg _ (Except.error.inj h)), fun
      | .inl h => congrArg _ (Except.error.inj h)
      | .inr ⟨_, h, _⟩ => nomatch h⟩
  | ok a => exact ⟨fun h => .inr ⟨a, rfl, h⟩, fun
      | .inl h => nomatch h
      | .inr ⟨_, rfl, h⟩ => h⟩

theorem mapError_eq_ok {x : Except ε α} {f : ε → ε'} {a : α} :
    x.mapError f = .ok a ↔ x = .ok a := by
  cases x <;> simp [Except.mapError]

theorem raiseIf_eq_ok {c : Prop} [Decidable c] {e : ε} {u : Unit} :
    (raiseIf c e : Except ε Unit) = .ok u ↔ ¬ c := by
  unfold raiseIf
  split
  · next h => exact ⟨nofun, fun hn => absurd h hn⟩
  · next h => exact ⟨fun _ => h, fun _ => rfl⟩

theorem pure_eq_ok {a b : α} : (pure a : Except ε α) = .ok b ↔ a = b :=
  ⟨Except.ok.inj, congrArg _⟩

/-- A loop succeeds when all its steps do. -/
theorem forM_eq_ok {xs : List α} {f : α → Except ε Unit} {u : Unit} :
    xs.forM f = .ok u ↔ ∀ x ∈ xs, f x = .ok () := by
  induction xs with
  | nil => exact ⟨fun _ x hx => absurd hx List.not_mem_nil, fun _ => rfl⟩
  | cons x xs ih =>
    change (f x >>= fun _ => xs.forM f) = _ ↔ _
    rw [bind_eq_ok, List.forall_mem_cons]
    exact ⟨fun ⟨_, hx, hxs⟩ => ⟨hx, ih.1 hxs⟩, fun ⟨hx, hxs⟩ => ⟨_, hx, ih.2 hxs⟩⟩

/-- A comprehension succeeds when all its elements do. -/
theorem mapM_eq_ok {xs : List α} {f : α → Except ε β} {ys : List β} :
    xs.mapM f = .ok ys ↔ List.Forall₂ (fun x y => f x = .ok y) xs ys := by
  induction xs generalizing ys with
  | nil => exact ⟨fun h => Except.ok.inj h ▸ .nil, fun h => by cases h; rfl⟩
  | cons x xs ih =>
    rw [List.mapM_cons, bind_eq_ok]
    constructor
    · rintro ⟨y, hy, hrest⟩
      obtain ⟨ys', hys', heq⟩ := bind_eq_ok.1 hrest
      rw [← pure_eq_ok.1 heq]
      exact .cons hy (ih.1 hys')
    · intro h
      cases h with
      | cons hy hys => exact ⟨_, hy, bind_eq_ok.2 ⟨_, ih.2 hys, rfl⟩⟩

/-- What a comprehension returns comes from an element. -/
theorem exists_of_mem_mapM {xs : List α} {f : α → Except ε β} {ys : List β} {y : β}
    (h : xs.mapM f = .ok ys) (hy : y ∈ ys) : ∃ x ∈ xs, f x = .ok y := by
  have hall := mapM_eq_ok.1 h
  clear h
  induction hall with
  | nil => exact absurd hy List.not_mem_nil
  | cons hhead _ ih =>
    rcases List.mem_cons.1 hy with rfl | hy
    · exact ⟨_, List.mem_cons_self, hhead⟩
    · obtain ⟨x, hx, hfx⟩ := ih hy
      exact ⟨x, List.mem_cons_of_mem _ hx, hfx⟩

/-- Every element of a comprehension that returns has a value. -/
theorem exists_mapM_of_mem {xs : List α} {f : α → Except ε β} {ys : List β} {x : α}
    (h : xs.mapM f = .ok ys) (hx : x ∈ xs) : ∃ y ∈ ys, f x = .ok y := by
  have hall := mapM_eq_ok.1 h
  clear h
  induction hall with
  | nil => exact absurd hx List.not_mem_nil
  | cons hhead _ ih =>
    rcases List.mem_cons.1 hx with rfl | hx
    · exact ⟨_, List.mem_cons_self, hhead⟩
    · obtain ⟨y, hy, hfy⟩ := ih hx
      exact ⟨y, List.mem_cons_of_mem _ hy, hfy⟩

/-- A comprehension depends on its steps only. -/
theorem mapM_congr {xs : List α} {f g : α → Except ε β} (h : ∀ x ∈ xs, f x = g x) :
    xs.mapM f = xs.mapM g := by
  induction xs with
  | nil => rfl
  | cons x xs ih =>
    rw [List.mapM_cons, List.mapM_cons, h x List.mem_cons_self,
      ih fun y hy => h y (List.mem_cons_of_mem _ hy)]

/-- A sequence depends on what follows a success only. -/
theorem bind_congr_of_ok {x : Except ε α} {f g : α → Except ε β}
    (h : ∀ a, x = .ok a → f a = g a) : (x >>= f) = x >>= g := by
  cases x with
  | error e => rfl
  | ok a => exact h a rfl

end

/-! ## Recording checks -/

/-- Whenever `c` succeeds it returns `r` and adds exactly the items `adds` to those the state
`has`; and it succeeds, from any state, exactly if `ok`. -/
structure Records {σ κ ε α : Type} (has : σ → κ → Prop) (c : StateT σ (Except ε) α) (r : α)
    (ok : Prop) (adds : κ → Prop) : Prop where
  /-- If `ok`, the check succeeds. -/
  succeeds : ok → ∀ s, ∃ s', c s = .ok (r, s')
  /-- If the check succeeds, then `ok`, the result is `r`, and `adds` is what was added. -/
  inv : ∀ {s a s'}, c s = .ok (a, s') → ok ∧ a = r ∧ ∀ k, has s' k ↔ has s k ∨ adds k

namespace Records

variable {σ κ ε α β : Type} {has : σ → κ → Prop}

/-- A check that records can be described by an equivalent condition and equivalent additions. -/
theorem congr {c : StateT σ (Except ε) α} {r : α} {ok ok' : Prop} {adds adds' : κ → Prop}
    (h : Records has c r ok adds) (hok : ok ↔ ok') (hadds : ok → ∀ k, adds k ↔ adds' k) :
    Records has c r ok' adds' where
  succeeds := fun h' => h.succeeds (hok.2 h')
  inv := fun hs => by
    obtain ⟨h1, h2, h3⟩ := h.inv hs
    exact ⟨hok.1 h1, h2, fun k => (h3 k).trans (or_congr_right (hadds h1 k))⟩

theorem pure (r : α) :
    Records (ε := ε) has (Pure.pure r : StateT σ (Except ε) α) r True fun _ => False where
  succeeds := fun _ s => ⟨s, rfl⟩
  inv := fun hs => by
    cases hs
    exact ⟨trivial, rfl, fun k => (or_false _).to_iff.symm⟩

/-- A check that raises records nothing. -/
theorem throw (e : ε) (r : α) :
    Records has (MonadExceptOf.throw e : StateT σ (Except ε) α) r False fun _ => False where
  succeeds := False.elim
  inv := fun hs => nomatch hs

theorem raiseIf (c : Prop) [Decidable c] (e : ε) :
    Records has (Python.raiseIf c e : StateT σ (Except ε) Unit) () (¬ c) fun _ => False := by
  unfold Python.raiseIf
  split
  · next h => exact (throw e ()).congr (by simp [h]) fun _ _ => Iff.rfl
  · next h => exact (pure ()).congr (by simp [h]) fun _ _ => Iff.rfl

/-- Adding items never fails. -/
theorem modify {f : σ → σ} {adds : κ → Prop} (h : ∀ s k, has (f s) k ↔ has s k ∨ adds k) :
    Records has (modify f : StateT σ (Except ε) PUnit) () True adds where
  succeeds := fun _ s => ⟨f s, rfl⟩
  inv := fun hs => by
    cases hs
    exact ⟨trivial, rfl, h _⟩

/-- One check after the other: both must pass, and both add. -/
theorem bind {c : StateT σ (Except ε) α} {r : α} {ok : Prop} {adds : κ → Prop}
    {d : α → StateT σ (Except ε) β} {r' : β} {ok' : Prop} {adds' : κ → Prop}
    (hc : Records has c r ok adds) (hd : Records has (d r) r' ok' adds') :
    Records has (c >>= d) r' (ok ∧ ok') fun k => adds k ∨ adds' k where
  succeeds := fun ⟨h, h'⟩ s => by
    obtain ⟨s₁, h₁⟩ := hc.succeeds h s
    obtain ⟨s₂, h₂⟩ := hd.succeeds h' s₁
    exact ⟨s₂, bind_eq_ok.2 ⟨_, h₁, h₂⟩⟩
  inv := fun hs => by
    obtain ⟨⟨a, s₁⟩, h₁, h₂⟩ := bind_eq_ok.1 hs
    obtain ⟨hok, rfl, hadds⟩ := hc.inv h₁
    obtain ⟨hok', rfl, hadds'⟩ := hd.inv h₂
    exact ⟨⟨hok, hok'⟩, rfl, fun k => by rw [hadds' k, hadds k, or_assoc]⟩

/-- The same when the first check returns nothing. -/
theorem seq {c : StateT σ (Except ε) Unit} {ok : Prop} {adds : κ → Prop}
    {d : StateT σ (Except ε) β} {r' : β} {ok' : Prop} {adds' : κ → Prop}
    (hc : Records has c () ok adds) (hd : Records has d r' ok' adds') :
    Records has (c >>= fun _ => d) r' (ok ∧ ok') fun k => adds k ∨ adds' k :=
  hc.bind hd

/-- A check under a condition. -/
theorem ite {p : Prop} [Decidable p] {c d : StateT σ (Except ε) α} {r : α} {ok ok' : Prop}
    {adds adds' : κ → Prop} (hc : p → Records has c r ok adds)
    (hd : ¬ p → Records has d r ok' adds') :
    Records has (if p then c else d) r (if p then ok else ok')
      fun k => if p then adds k else adds' k := by
  by_cases h : p
  · simpa only [if_pos h] using hc h
  · simpa only [if_neg h] using hd h

/-- A loop: every turn must pass, and every turn adds. -/
theorem forM {ι : Type} {xs : List ι} {f : ι → StateT σ (Except ε) PUnit} {ok : ι → Prop}
    {adds : ι → κ → Prop} (h : ∀ x ∈ xs, Records has (f x) () (ok x) (adds x)) :
    Records has (xs.forM f) () (∀ x ∈ xs, ok x) fun k => ∃ x ∈ xs, adds x k := by
  induction xs with
  | nil => exact (pure ()).congr (by simp) fun _ _ => by simp
  | cons x xs ih =>
    have hx := h x List.mem_cons_self
    have hxs := ih fun y hy => h y (List.mem_cons_of_mem _ hy)
    exact (hx.bind hxs).congr (by simp) fun _ _ => by simp

/-- A loop that also carries a value, computed by `g`: each turn must pass and adds, given the value
it is reached with. -/
theorem foldlM {ι : Type} {g : β → ι → β} {f : β → ι → StateT σ (Except ε) β}
    {ok : β → ι → Prop} {adds : β → ι → κ → Prop} :
    ∀ {xs : List ι} {b : β}, (∀ b, ∀ x ∈ xs, Records has (f b x) (g b x) (ok b x) (adds b x)) →
    Records has (xs.foldlM f b) (xs.foldl g b)
      (∀ pre x post, xs = pre ++ x :: post → ok (pre.foldl g b) x)
      fun k => ∃ pre x post, xs = pre ++ x :: post ∧ adds (pre.foldl g b) x k
  | [], b, _ => (pure b).congr (by simp) fun _ _ => by simp
  | x :: xs, b, h => by
    have hx := h b x List.mem_cons_self
    have hxs := foldlM (b := g b x) fun b y hy => h b y (List.mem_cons_of_mem _ hy)
    rw [List.foldlM_cons, List.foldl_cons]
    refine (hx.bind hxs).congr ⟨?_, ?_⟩ fun _ k => ⟨?_, ?_⟩
    · rintro ⟨h0, hrest⟩ pre y post heq
      cases pre with
      | nil => cases heq; exact h0
      | cons z pre => cases heq; exact hrest pre y post rfl
    · intro hall
      exact ⟨hall [] x xs rfl, fun pre y post heq => hall (x :: pre) y post (by rw [heq]; rfl)⟩
    · rintro (hk | ⟨pre, y, post, heq, hk⟩)
      · exact ⟨[], x, xs, rfl, hk⟩
      · exact ⟨x :: pre, y, post, by rw [heq]; rfl, hk⟩
    · rintro ⟨pre, y, post, heq, hk⟩
      cases pre with
      | nil => cases heq; exact .inl hk
      | cons z pre => cases heq; exact .inr ⟨pre, y, post, rfl, hk⟩

end Records

/-! ## What a check maintains -/

/-- Whenever `c` succeeds, it keeps `I`. -/
def Maintains {σ ε α : Type} (I : σ → Prop) (c : StateT σ (Except ε) α) : Prop :=
  ∀ s a s', c s = .ok (a, s') → I s → I s'

namespace Maintains

variable {σ ε α β : Type} {I : σ → Prop}

theorem pure (r : α) : Maintains I (Pure.pure r : StateT σ (Except ε) α) := by
  intro s a s' h hs
  cases h
  exact hs

theorem throw (e : ε) : Maintains I (MonadExceptOf.throw e : StateT σ (Except ε) α) := by
  intro s a s' h
  cases h

theorem raiseIf (c : Prop) [Decidable c] (e : ε) :
    Maintains I (Python.raiseIf c e : StateT σ (Except ε) Unit) := by
  unfold Python.raiseIf
  split
  · exact throw e
  · exact pure ()

theorem bind {c : StateT σ (Except ε) α} {d : α → StateT σ (Except ε) β} (hc : Maintains I c)
    (hd : ∀ a, Maintains I (d a)) : Maintains I (c >>= d) := by
  intro s b s' h hs
  obtain ⟨⟨a, s₁⟩, h₁, h₂⟩ := bind_eq_ok.1 h
  exact hd a _ _ _ h₂ (hc _ _ _ h₁ hs)

/-- What follows a check runs only where the check found nothing. -/
theorem raiseIf_bind {c : Prop} [Decidable c] {e : ε} {d : StateT σ (Except ε) β}
    (hd : ¬ c → Maintains I d) : Maintains I (Python.raiseIf c e >>= fun _ => d) := by
  by_cases h : c
  · intro s b s' hrun
    obtain ⟨⟨⟨⟩, s₁⟩, hraised, -⟩ := bind_eq_ok.1 hrun
    rw [Python.raiseIf, if_pos h] at hraised
    cases hraised
  · exact (raiseIf c e).bind fun _ => hd h

theorem ite {p : Prop} [Decidable p] {c d : StateT σ (Except ε) α} (hc : Maintains I c)
    (hd : Maintains I d) : Maintains I (if p then c else d) := by
  split
  · exact hc
  · exact hd

theorem forM {ι : Type} {xs : List ι} {c : ι → StateT σ (Except ε) PUnit}
    (h : ∀ x, Maintains I (c x)) : Maintains I (xs.forM c) := by
  induction xs with
  | nil => exact pure _
  | cons x xs ih => exact (h x).bind fun _ => ih

theorem foldlM {ι : Type} {c : β → ι → StateT σ (Except ε) β} (h : ∀ b x, Maintains I (c b x)) :
    ∀ {xs : List ι} {b : β}, Maintains I (xs.foldlM c b)
  | [], b => pure b
  | x :: xs, b => by
    rw [List.foldlM_cons]
    exact (h b x).bind fun _ => foldlM h

end Maintains

/-- Whenever `c` succeeds, `f` of the state is as it was. -/
def Leaves {σ ε α δ : Type} (f : σ → δ) (c : StateT σ (Except ε) α) : Prop :=
  ∀ s a s', c s = .ok (a, s') → f s' = f s

/-- To leave `f` alone is to keep its value, whatever that is. -/
theorem leaves_iff {σ ε α δ : Type} {f : σ → δ} {c : StateT σ (Except ε) α} :
    Leaves f c ↔ ∀ v, Maintains (fun s => f s = v) c :=
  ⟨fun h _ s a s' hc hs => (h s a s' hc).trans hs, fun h s a s' hc => h (f s) s a s' hc rfl⟩

end Python
