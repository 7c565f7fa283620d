import Mathlib

/-!
# Results of Go functions

A Go function that dereferences pointers and returns an `error` ends in one of three ways: it
returns its values, it returns an error, or it panics on a nil pointer.  `Result ε α` is that
outcome, as a monad: a returned error or a panic ends the function.  `deref` reads a pointer.

A `for _, x := range xs` loop whose body may `continue` or return early is a `List.foldlM` in
this monad.  Two loop rules carry an invariant over the processed prefix of the slice:
`foldlM_inv` (if the loop returns normally, the invariant holds of the whole slice) and
`foldlM_progress` (if every step from the invariant returns normally, so does the loop).
-/

namespace Go

/-- How a Go function ends. -/
inductive Result (ε α : Type) where
  /-- the function returned its values with a nil error -/
  | ok (a : α)
  /-- the function returned an error -/
  | err (e : ε)
  /-- a nil pointer was dereferenced -/
  | panic
  deriving DecidableEq, Repr

namespace Result

variable {ε α β σ : Type}

/-- Sequencing: an error or a panic ends the function. -/
def bind : Result ε α → (α → Result ε β) → Result ε β
  | ok a, f => f a
  | err e, _ => err e
  | panic, _ => panic

instance : Monad (Result ε) where
  pure := ok
  bind := bind

instance : LawfulMonad (Result ε) :=
  LawfulMonad.mk' _ (fun x => by cases x <;> rfl) (fun _ _ => rfl)
    (fun x _ _ => by cases x <;> rfl)

@[simp] lemma pure_eq (a : α) : (pure a : Result ε α) = ok a := rfl

@[simp] lemma ok_bind (a : α) (f : α → Result ε β) : (ok a >>= f) = f a := rfl

@[simp] lemma err_bind (e : ε) (f : α → Result ε β) : (err e >>= f) = err e := rfl

@[simp] lemma panic_bind (f : α → Result ε β) : ((panic : Result ε α) >>= f) = panic := rfl

/-- A sequence returns normally exactly when both parts do. -/
lemma bind_eq_ok {m : Result ε α} {f : α → Result ε β} {b : β} :
    m >>= f = ok b ↔ ∃ a, m = ok a ∧ f a = ok b := by
  cases m <;> simp

/-- A sequence panics exactly when its first part does, or returns normally and the rest
panics. -/
lemma bind_eq_panic {m : Result ε α} {f : α → Result ε β} :
    m >>= f = panic ↔ m = panic ∨ ∃ a, m = ok a ∧ f a = panic := by
  cases m <;> simp

/-- `if err != nil { return err }` for the `error` an API call returns, nil or not. -/
def fromError : Option ε → Result ε Unit
  | none => ok ()
  | some e => err e

@[simp] lemma fromError_none : (fromError none : Result ε Unit) = ok () := rfl

@[simp] lemma fromError_some (e : ε) : (fromError (some e) : Result ε Unit) = err e := rfl

lemma fromError_ne_panic (o : Option ε) : fromError o ≠ panic := by
  cases o <;> simp

/-- An error passed on as one of a wider type, as Go returns any `error` as it is. -/
def mapErr {ε' : Type} (g : ε → ε') : Result ε α → Result ε' α
  | ok a => ok a
  | err e => err (g e)
  | panic => panic

@[simp] lemma mapErr_ok {ε' : Type} (g : ε → ε') (a : α) : (ok a : Result ε α).mapErr g = ok a := rfl

@[simp] lemma mapErr_err {ε' : Type} (g : ε → ε') (e : ε) :
    (err e : Result ε α).mapErr g = err (g e) := rfl

@[simp] lemma mapErr_panic {ε' : Type} (g : ε → ε') : (panic : Result ε α).mapErr g = panic := rfl

/-- `*p`: a nil pointer panics. -/
def deref : Option α → Result ε α
  | some a => ok a
  | none => panic

@[simp] lemma deref_some (a : α) : (deref (some a) : Result ε α) = ok a := rfl

@[simp] lemma deref_none : (deref none : Result ε α) = panic := rfl

@[simp] lemma deref_eq_ok {o : Option α} {a : α} : (deref o : Result ε α) = ok a ↔ o = some a := by
  cases o <;> simp

/-! ## Loops -/

variable {f : σ → α → Result ε σ}

lemma foldlM_inv_aux {xs : List α} (I : List α → σ → Prop)
    (hstep : ∀ pre x suf s s', xs = pre ++ x :: suf → I pre s → f s x = ok s' →
      I (pre ++ [x]) s') :
    ∀ (suf pre : List α) (s r : σ), xs = pre ++ suf → I pre s →
      suf.foldlM f s = ok r → I xs r := by
  intro suf
  induction suf with
  | nil =>
    intro pre s r hxs hI hrun
    simp only [List.foldlM_nil, pure_eq, ok.injEq] at hrun
    subst hrun
    simpa [hxs] using hI
  | cons x suf ih =>
    intro pre s r hxs hI hrun
    rw [List.foldlM_cons, bind_eq_ok] at hrun
    obtain ⟨s', hs', hrest⟩ := hrun
    exact ih (pre ++ [x]) s' r (by simp [hxs]) (hstep pre x suf s s' hxs hI hs') hrest

/-- **Loop invariant rule.**  An invariant of the processed prefix that every normal step
keeps holds of the whole slice when the loop returns normally. -/
theorem foldlM_inv {xs : List α} {s₀ r : σ} (I : List α → σ → Prop) (h₀ : I [] s₀)
    (hstep : ∀ pre x suf s s', xs = pre ++ x :: suf → I pre s → f s x = ok s' →
      I (pre ++ [x]) s')
    (hrun : xs.foldlM f s₀ = ok r) : I xs r :=
  foldlM_inv_aux I hstep xs [] s₀ r rfl h₀ hrun

lemma foldlM_progress_aux {xs : List α} (I : List α → σ → Prop)
    (hstep : ∀ pre x suf s, xs = pre ++ x :: suf → I pre s →
      ∃ s', f s x = ok s' ∧ I (pre ++ [x]) s') :
    ∀ (suf pre : List α) (s : σ), xs = pre ++ suf → I pre s →
      ∃ r, suf.foldlM f s = ok r ∧ I xs r := by
  intro suf
  induction suf with
  | nil =>
    intro pre s hxs hI
    exact ⟨s, rfl, by simpa [hxs] using hI⟩
  | cons x suf ih =>
    intro pre s hxs hI
    obtain ⟨s', hs', hI'⟩ := hstep pre x suf s hxs hI
    obtain ⟨r, hr, hIr⟩ := ih (pre ++ [x]) s' (by simp [hxs]) hI'
    exact ⟨r, by rw [List.foldlM_cons, hs', ok_bind, hr], hIr⟩

/-- **Loop progress rule.**  If every step taken from the invariant returns normally and keeps
it, the loop returns normally and the invariant holds of the whole slice. -/
theorem foldlM_progress {xs : List α} {s₀ : σ} (I : List α → σ → Prop) (h₀ : I [] s₀)
    (hstep : ∀ pre x suf s, xs = pre ++ x :: suf → I pre s →
      ∃ s', f s x = ok s' ∧ I (pre ++ [x]) s') :
    ∃ r, xs.foldlM f s₀ = ok r ∧ I xs r :=
  foldlM_progress_aux I hstep xs [] s₀ rfl h₀

end Result

end Go
