import HttpRetry.Ledger
/-!
What a piece of work comes to when it is started in a given ledger, and the rules by which that is
found for work put together of parts. The rules are applied to the text of a piece of work, so that
its case distinctions can be followed one by one.
-/
set_option autoImplicit false

namespace HttpRetry.Work

variable {α β : Type}

theorem bind_apply (w : Work α) (f : α → Work β) (l : Ledger) :
    (w >>= f) l = f (w l).1 (w l).2 := rfl

theorem pure_apply (a : α) (l : Ledger) : (pure a : Work α) l = (a, l) := rfl

theorem map_apply (f : α → β) (w : Work α) (l : Ledger) : (f <$> w) l = (f (w l).1, (w l).2) := rfl

theorem get_apply (f : Ledger → Work β) (l : Ledger) :
    ((get : Work Ledger) >>= f) l = f l l := rfl

/-- Started in `l`, the work ends with a value and a ledger that `Q` holds of. -/
def Yields (w : Work α) (l : Ledger) (Q : α → Ledger → Prop) : Prop := Q (w l).1 (w l).2

variable {l : Ledger} {Q : β → Ledger → Prop}

theorem Yields.mono {w : Work α} {P P' : α → Ledger → Prop} (h : w.Yields l P)
    (hp : ∀ a l', P a l' → P' a l') : w.Yields l P' := hp _ _ h

theorem Yields.and {w : Work α} {P P' : α → Ledger → Prop} (h : w.Yields l P)
    (h' : w.Yields l P') : w.Yields l fun a l' => P a l' ∧ P' a l' := ⟨h, h'⟩

theorem Yields.at {w : Work α} {P : α → Ledger → Prop} (h : w.Yields l P) {a : α} {l' : Ledger}
    (ends : w l = (a, l')) : P a l' := by
  unfold Yields at h
  rwa [ends] at h

theorem yields_pure {b : β} (h : Q b l) : Yields (pure b : Work β) l Q := h

theorem yields_bind {w : Work α} {f : α → Work β} {P : α → Ledger → Prop} (hw : w.Yields l P)
    (hf : ∀ a l', P a l' → (f a).Yields l' Q) : (w >>= f).Yields l Q := hf _ _ hw

theorem yields_after {w : Work α} {f : α → Work β} (hf : ∀ a l', (f a).Yields l' Q) :
    (w >>= f).Yields l Q := hf _ _

theorem yields_map {w : Work α} {f : α → β} {P : α → Ledger → Prop} (hw : w.Yields l P)
    (hf : ∀ a l', P a l' → Q (f a) l') : (f <$> w).Yields l Q := hf _ _ hw

theorem yields_get {f : Ledger → Work β} (h : (f l).Yields l Q) :
    ((get : Work Ledger) >>= f).Yields l Q := h

theorem yields_modify {g : Ledger → Ledger} {f : Unit → Work β} (h : (f ()).Yields (g l) Q) :
    ((modify g : Work Unit) >>= f).Yields l Q := h

theorem yields_note {e : Event} {f : Unit → Work β} (h : (f ()).Yields (l.note e) Q) :
    (note e >>= f).Yields l Q := h

end HttpRetry.Work
