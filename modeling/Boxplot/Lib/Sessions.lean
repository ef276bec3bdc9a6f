import Boxplot.Lib.Async
/-!
# Sessions

Programs run one after another against a world. Each may be cut off anywhere,
and the next one starts in the world it left. A `Stretch` is what one of them
did, with the calls it made.
-/

namespace Boxplot.Lib

variable {O E : Type} {R : E → Type} {α W : Type}

/-- A world with the calls answered so far. -/
def logged (perform : W → (e : E) → R e → W → Prop) (w : W × List (Sigma R)) (e : E) (r : R e) (w' : W × List (Sigma R)) :
    Prop :=
  perform w.1 e r w'.1 ∧ w'.2 = w.2 ++ [⟨e, r⟩]

/-- One call, and the rest of the run. -/
theorem Exec.logged_step {perform : W → (e : E) → R e → W → Prop} {e : E} {k : R e → Prog E R α} {w : W} {calls : List (Sigma R)}
    {o : Option α} {x : W × List (Sigma R)} (r : R e) (w' : W) (h : perform w e r w')
    (hk : Exec (logged perform) (k r) (w', calls ++ [⟨e, r⟩]) o x) : Exec (logged perform) (.await e k) (w, calls) o x :=
  .step ⟨h, rfl⟩ hk

structure Stretch (O E : Type) (R : E → Type) (α W : Type) where
  op : O
  before : W
  calls : List (Sigma R)
  /-- `none` where the program was cut off. -/
  outcome : Option α
  after : W

/-- The program of the stretch makes these calls, and comes to this outcome. -/
def Stretch.Runs (perform : W → (e : E) → R e → W → Prop) (body : O → Prog E R α) (t : Stretch O E R α W) : Prop :=
  Exec (logged perform) (body t.op) (t.before, []) t.outcome (t.after, t.calls)

inductive Session (perform : W → (e : E) → R e → W → Prop) (body : O → Prog E R α) (w₀ : W) :
    List (Stretch O E R α W) → W → Prop
  | nil : Session perform body w₀ [] w₀
  | snoc {h : List (Stretch O E R α W)} {t : Stretch O E R α W} :
      Session perform body w₀ h t.before → t.Runs perform body → Session perform body w₀ (h ++ [t]) t.after

namespace Session

variable {perform : W → (e : E) → R e → W → Prop} {body : O → Prog E R α} {w₀ w : W} {h : List (Stretch O E R α W)}

/-- Where `C` of every stretch keeps `I`, and `P` and `C` say the same of a stretch that starts with `I`, they say
the same of all stretches. -/
theorem forall_iff {I : W → Prop} {P C : Stretch O E R α W → Prop} (hs : Session perform body w₀ h w) (h₀ : I w₀)
    (hiff : ∀ t ∈ h, t.Runs perform body → I t.before → (P t ↔ C t))
    (hkeeps : ∀ t ∈ h, t.Runs perform body → I t.before → C t → I t.after) : (∀ t ∈ h, P t) ↔ ∀ t ∈ h, C t := by
  suffices hboth : ((∀ t ∈ h, P t) ↔ ∀ t ∈ h, C t) ∧ ((∀ t ∈ h, C t) → I w) from hboth.1
  induction hs with
  | nil => exact ⟨by simp, fun _ => h₀⟩
  | @snoc h t hs hrun ih =>
    obtain ⟨ih, hI⟩ := ih (fun u hu => hiff u (List.mem_append_left _ hu)) fun u hu => hkeeps u (List.mem_append_left _ hu)
    have ht : t ∈ h ++ [t] := List.mem_append_right _ List.mem_cons_self
    simp only [List.forall_mem_append, List.forall_mem_singleton]
    refine ⟨⟨fun ⟨hP, hPt⟩ => ?_, fun ⟨hC, hCt⟩ => ?_⟩, fun ⟨hC, hCt⟩ => hkeeps t ht hrun (hI hC) hCt⟩
    · have hC := ih.1 hP
      exact ⟨hC, (hiff t ht hrun (hI hC)).1 hPt⟩
    · exact ⟨ih.2 hC, (hiff t ht hrun (hI hC)).2 hCt⟩

end Session

end Boxplot.Lib
