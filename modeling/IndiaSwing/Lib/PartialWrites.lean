import Mathlib.Order.Defs.Unbundled

namespace PartialWrites

universe u

/-- A computation over a store that may fail. What it wrote before it failed stays written. -/
def Writes (σ : Type*) (ε : Type*) (α : Type u) := σ → Except ε α × σ

variable {σ τ ε ε' : Type*} {α β : Type u}

namespace Writes

instance : Monad (Writes σ ε) where
  pure a := fun s => (.ok a, s)
  bind x f := fun s =>
    match x s with
    | (.ok a, t) => f a t
    | (.error e, t) => (.error e, t)

/-- A computation that only looks at the store. -/
def read (f : σ → Except ε α) : Writes σ ε α := fun s => (f s, s)

def lift (x : Except ε α) : Writes σ ε α := read fun _ => x

/-- A single write: it happens as a whole or not at all. -/
def update (f : σ → Except ε (α × σ)) : Writes σ ε α := fun s =>
  match f s with
  | .ok (a, t) => (.ok a, t)
  | .error e => (.error e, s)

def mapError (f : ε → ε') (x : Writes σ ε α) : Writes σ ε' α := fun s =>
  ((x s).1.mapError f, (x s).2)

/-- A computation over one part of a larger store. -/
def onPart (get : σ → τ) (set : σ → τ → σ) (x : Writes τ ε α) : Writes σ ε α := fun s =>
  ((x (get s)).1, set s (x (get s)).2)

def forItems (f : α → Writes σ ε β) : List α → Writes σ ε (List β)
  | [] => pure []
  | a :: l => do
    let b ← f a
    let bs ← forItems f l
    return b :: bs

section Runs

variable {x : Writes σ ε α} {f : α → Writes σ ε β} {s t : σ} {a : α} {b : β} {e : ε}

@[simp] theorem pure_run : (pure a : Writes σ ε α) s = (.ok a, s) := rfl

@[simp] theorem read_run {f : σ → Except ε α} : read f s = (f s, s) := rfl

@[simp] theorem lift_run {y : Except ε α} : lift y s = (y, s) := rfl

theorem bind_of_ok (h : x s = (.ok a, t)) : (x >>= f) s = f a t := by
  show (match x s with
    | (.ok a, t) => f a t
    | (.error e, t) => (.error e, t)) = _
  rw [h]

theorem bind_of_error (h : x s = (.error e, t)) : (x >>= f) s = (.error e, t) := by
  show (match x s with
    | (.ok a, t) => f a t
    | (.error e, t) => (.error e, t)) = _
  rw [h]

theorem bind_run_ok : (x >>= f) s = (.ok b, t) ↔ ∃ a u, x s = (.ok a, u) ∧ f a u = (.ok b, t) := by
  rcases hx : x s with ⟨y, u⟩
  cases y with
  | error e =>
    rw [bind_of_error hx]
    constructor
    · intro h
      cases (Prod.mk.inj h).1
    · rintro ⟨a, v, hv, -⟩
      cases (Prod.mk.inj hv).1
  | ok a =>
    rw [bind_of_ok hx]
    constructor
    · exact fun h => ⟨a, u, rfl, h⟩
    · rintro ⟨c, v, hv, h⟩
      obtain ⟨ha, rfl⟩ := Prod.mk.inj hv
      rwa [Except.ok.inj ha]

/-- A computation that failed, failed in its first part or in what came after it. -/
theorem bind_run_error : (x >>= f) s = (.error e, t) ↔
    x s = (.error e, t) ∨ ∃ a u, x s = (.ok a, u) ∧ f a u = (.error e, t) := by
  rcases hx : x s with ⟨y, u⟩
  cases y with
  | error e' =>
    rw [bind_of_error hx]
    constructor
    · intro h
      obtain ⟨he, rfl⟩ := Prod.mk.inj h
      exact .inl (by rw [Except.error.inj he])
    · rintro (h | ⟨a, v, hv, -⟩)
      · obtain ⟨he, rfl⟩ := Prod.mk.inj h
        rw [Except.error.inj he]
      · cases (Prod.mk.inj hv).1
  | ok a =>
    rw [bind_of_ok hx]
    constructor
    · exact fun h => .inr ⟨a, u, rfl, h⟩
    · rintro (h | ⟨c, v, hv, h⟩)
      · cases (Prod.mk.inj h).1
      · obtain ⟨ha, rfl⟩ := Prod.mk.inj hv
        rwa [Except.ok.inj ha]

theorem read_run_ok {f : σ → Except ε α} : read f s = (.ok a, t) ↔ f s = .ok a ∧ t = s := by
  rw [read_run, Prod.mk.injEq, eq_comm (a := s)]

theorem lift_run_ok {y : Except ε α} : lift y s = (.ok a, t) ↔ y = .ok a ∧ t = s := read_run_ok

theorem onPart_run {get : σ → τ} {set : σ → τ → σ} {y : Writes τ ε α} {z : Except ε α} :
    onPart get set y s = (z, t) ↔ ∃ u, y (get s) = (z, u) ∧ t = set s u := by
  constructor
  · intro h
    obtain ⟨ha, rfl⟩ := Prod.mk.inj h
    exact ⟨_, Prod.ext ha rfl, rfl⟩
  · rintro ⟨u, hy, rfl⟩
    simp only [onPart, hy]

theorem update_run_ok {f : σ → Except ε (α × σ)} : update f s = (.ok a, t) ↔ f s = .ok (a, t) := by
  unfold update
  split
  next b u hf => simp [hf]
  next e hf => simp [hf]

theorem update_of_error {f : σ → Except ε (α × σ)} (h : f s = .error e) : update f s = (.error e, s) := by
  unfold update
  rw [h]

theorem update_run_error {f : σ → Except ε (α × σ)} :
    update f s = (.error e, t) ↔ f s = .error e ∧ t = s := by
  unfold update
  split
  next b u hf => simp [hf]
  next e' hf => simp [hf, eq_comm (a := s)]

theorem mapError_run_ok {g : ε → ε'} : mapError g x s = (.ok a, t) ↔ x s = (.ok a, t) := by
  rcases hx : x s with ⟨y, u⟩
  unfold mapError
  rw [hx]
  cases y with
  | error e =>
    constructor
    · intro h
      cases (Prod.mk.inj h).1
    · intro h
      cases (Prod.mk.inj h).1
  | ok a =>
    constructor
    · intro h
      obtain ⟨ha, rfl⟩ := Prod.mk.inj h
      rw [Except.ok.inj ha]
    · intro h
      obtain ⟨ha, rfl⟩ := Prod.mk.inj h
      rw [Except.ok.inj ha]
      rfl

theorem mapError_run_error {g : ε → ε'} {e' : ε'} :
    mapError g x s = (.error e', t) ↔ ∃ e, x s = (.error e, t) ∧ g e = e' := by
  rcases hx : x s with ⟨y, u⟩
  unfold mapError
  rw [hx]
  cases y with
  | error e =>
    constructor
    · intro h
      obtain ⟨he, rfl⟩ := Prod.mk.inj h
      exact ⟨e, rfl, Except.error.inj he⟩
    · rintro ⟨e'', h, rfl⟩
      obtain ⟨he, rfl⟩ := Prod.mk.inj h
      rw [Except.error.inj he]
      rfl
  | ok a =>
    constructor
    · intro h
      cases (Prod.mk.inj h).1
    · rintro ⟨e, h, -⟩
      cases (Prod.mk.inj h).1

variable {l : List α} {bs : List β}

theorem forItems_cons_of_error (h : f a s = (.error e, t)) : forItems f (a :: l) s = (.error e, t) :=
  bind_of_error h

theorem forItems_cons_of_ok {u : σ} (h : f a s = (.ok b, t)) (hrest : forItems f l t = (.ok bs, u)) :
    forItems f (a :: l) s = (.ok (b :: bs), u) := by
  show (f a >>= fun b => forItems f l >>= fun bs => pure (b :: bs)) s = _
  rw [bind_of_ok h, bind_of_ok hrest, pure_run]

theorem forItems_cons_of_rest_error {u : σ} (h : f a s = (.ok b, t))
    (hrest : forItems f l t = (.error e, u)) : forItems f (a :: l) s = (.error e, u) := by
  show (f a >>= fun b => forItems f l >>= fun bs => pure (b :: bs)) s = _
  rw [bind_of_ok h, bind_of_error hrest]

theorem forItems_cons_ok {u : σ} (h : forItems f (a :: l) s = (.ok bs, u)) :
    ∃ b t rest, f a s = (.ok b, t) ∧ forItems f l t = (.ok rest, u) ∧ bs = b :: rest := by
  obtain ⟨b, t, hb, h⟩ := bind_run_ok.mp h
  obtain ⟨rest, v, hrest, h⟩ := bind_run_ok.mp h
  obtain ⟨hbs, rfl⟩ := Prod.mk.inj h
  exact ⟨b, t, rest, hb, hrest, (Except.ok.inj hbs).symm⟩

end Runs

/-- Whatever the computation returns, it takes the store along `R`. -/
def Within (R : σ → σ → Prop) (x : Writes σ ε α) : Prop := ∀ s, R s (x s).2

section Rules

variable {R : σ → σ → Prop} {x : Writes σ ε α} {f : α → Writes σ ε β}

theorem Within.pure [Std.Refl R] (a : α) : Within R (Pure.pure a : Writes σ ε α) := fun s => Std.Refl.refl s

theorem Within.read [Std.Refl R] (f : σ → Except ε α) : Within R (read f) := fun s => Std.Refl.refl s

theorem Within.lift [Std.Refl R] (y : Except ε α) : Within R (lift y : Writes σ ε α) := fun s => Std.Refl.refl s

/-- The second part may use what the first part returned. -/
theorem Within.bind_ok [IsTrans σ R] (hx : Within R x)
    (hf : ∀ s a t, x s = (.ok a, t) → R t (f a t).2) : Within R (x >>= f) := by
  intro s
  rcases hrun : x s with ⟨y, t⟩
  have hst : R s t := by simpa [hrun] using hx s
  cases y with
  | error e =>
    rw [bind_of_error hrun]
    exact hst
  | ok a =>
    rw [bind_of_ok hrun]
    exact IsTrans.trans s t _ hst (hf s a t hrun)

theorem Within.bind [IsTrans σ R] (hx : Within R x) (hf : ∀ a, Within R (f a)) :
    Within R (x >>= f) := Within.bind_ok hx fun _ a t _ => hf a t

theorem Within.update [Std.Refl R] {f : σ → Except ε (α × σ)}
    (h : ∀ s a t, f s = .ok (a, t) → R s t) : Within R (update f) := by
  intro s
  cases hf : f s with
  | error e =>
    rw [update_of_error hf]
    exact Std.Refl.refl s
  | ok pair =>
    obtain ⟨a, t⟩ := pair
    rw [update_run_ok.mpr hf]
    exact h s a t hf

theorem Within.mapError (g : ε → ε') (hx : Within R x) : Within R (mapError g x) := hx

theorem Within.onPart {Q : τ → τ → Prop} {get : σ → τ} {set : σ → τ → σ} {y : Writes τ ε α}
    (hy : Within Q y) (h : ∀ s t, Q (get s) t → R s (set s t)) : Within R (onPart get set y) :=
  fun s => h s _ (hy (get s))

theorem Within.forItems [Std.Refl R] [IsTrans σ R] (f : α → Writes σ ε β) (l : List α)
    (hf : ∀ a ∈ l, Within R (f a)) : Within R (forItems f l) := by
  induction l with
  | nil => exact Within.pure []
  | cons a l ih =>
    refine Within.bind (hf a List.mem_cons_self) fun b => Within.bind ?_ fun bs => Within.pure _
    exact ih fun c hc => hf c (List.mem_cons_of_mem _ hc)

end Rules

/-- The steps that keep a property of the store. -/
def Keeps (P : σ → Prop) : σ → σ → Prop := fun s t => P s → P t

instance {P : σ → Prop} : Std.Refl (Keeps P) := ⟨fun _ h => h⟩

instance {P : σ → Prop} : IsTrans σ (Keeps P) := ⟨fun _ _ _ h h' hs => h' (h hs)⟩

end Writes

end PartialWrites
