import Mathlib.Data.List.Nodup
import Mathlib.Data.List.Induction

/-!
# Runs of a step function

A run is the list of commands that were issued, in commit order. Properties of every
reachable state are proved from the first state on, one command at a time, and may refer
to the commands issued so far. Names that commands mint are fresh when the list of all
names minted along the run has no repetition.
-/

namespace Fleetd.Relational

variable {σ ι ν : Type}

/-- The state after issuing the commands in order. -/
def runFrom (step : ι → σ → σ) (s : σ) (cs : List ι) : σ :=
  cs.foldl (fun s c => step c s) s

/-- No name is minted twice along the run. -/
def FreshAlong (mints : ι → List ν) (cs : List ι) : Prop :=
  (cs.flatMap mints).Nodup

instance [DecidableEq ν] (mints : ι → List ν) (cs : List ι) : Decidable (FreshAlong mints cs) :=
  inferInstanceAs (Decidable (List.Nodup _))

/-- A run of two parts continues from where the first part ended. -/
theorem runFrom_append (step : ι → σ → σ) (s : σ) (cs ds : List ι) :
    runFrom step s (cs ++ ds) = runFrom step (runFrom step s cs) ds :=
  List.foldl_append

/-- The last command acts on the state the earlier ones reached. -/
theorem runFrom_snoc (step : ι → σ → σ) (s : σ) (cs : List ι) (c : ι) :
    runFrom step s (cs ++ [c]) = step c (runFrom step s cs) := by
  rw [runFrom_append]
  rfl

/-- The earlier part of a fresh run is fresh. -/
theorem FreshAlong.left {mints : ι → List ν} {cs ds : List ι} (h : FreshAlong mints (cs ++ ds)) :
    FreshAlong mints cs := by
  rw [FreshAlong, List.flatMap_append] at h
  exact h.of_append_left

/-- A run that a fresh run begins with is fresh. -/
theorem FreshAlong.of_earlier {mints : ι → List ν} {cs later : List ι} (hle : cs <+: later)
    (h : FreshAlong mints later) : FreshAlong mints cs := by
  obtain ⟨ds, rfl⟩ := hle
  exact h.left

/-- A name minted later was not minted before. -/
theorem FreshAlong.not_mem {mints : ι → List ν} {cs : List ι} {c : ι} {n : ν}
    (h : FreshAlong mints (cs ++ [c])) (hn : n ∈ mints c) : n ∉ cs.flatMap mints := by
  rw [FreshAlong, List.flatMap_append, List.nodup_append] at h
  intro hmem
  exact h.2.2 n hmem n (by simpa using hn) rfl

/-- A property of commands and states that holds at the start and survives each command of
a fresh run holds after every fresh run. -/
theorem FreshAlong.induction {mints : ι → List ν} {step : ι → σ → σ} {s₀ : σ}
    (P : List ι → σ → Prop) (init : P [] s₀)
    (next : ∀ cs c, FreshAlong mints (cs ++ [c]) → P cs (runFrom step s₀ cs) →
      P (cs ++ [c]) (step c (runFrom step s₀ cs)))
    (cs : List ι) (h : FreshAlong mints cs) : P cs (runFrom step s₀ cs) := by
  induction cs using List.reverseRecOn with
  | nil => exact init
  | append_singleton cs c ih =>
    rw [runFrom_snoc]
    exact next cs c h (ih h.left)

/-- What one step preserves, given a property of all reachable states, a continuation
preserves too. -/
theorem FreshAlong.induction_from {mints : ι → List ν} {step : ι → σ → σ} {s₀ : σ}
    (cs : List ι) (P : List ι → σ → Prop) (init : P [] (runFrom step s₀ cs))
    (next : ∀ ds d, FreshAlong mints (cs ++ ds ++ [d]) → P ds (runFrom step s₀ (cs ++ ds)) →
      P (ds ++ [d]) (step d (runFrom step s₀ (cs ++ ds))))
    (ds : List ι) (h : FreshAlong mints (cs ++ ds)) : P ds (runFrom step s₀ (cs ++ ds)) := by
  induction ds using List.reverseRecOn with
  | nil => simpa using init
  | append_singleton ds d ih =>
    rw [← List.append_assoc] at h ⊢
    rw [runFrom_snoc]
    exact next ds d h (ih h.left)

/-- Every command of a run meets a condition on the state in which it is issued. -/
def MeetAlong (step : ι → σ → σ) (condition : ι → σ → Prop) : σ → List ι → Prop
  | _, [] => True
  | s, c :: cs => condition c s ∧ MeetAlong step condition (step c s) cs

/-- What each command preserves under a condition, a run that meets the condition preserves. -/
theorem MeetAlong.induction {step : ι → σ → σ} {condition : ι → σ → Prop} (P : σ → Prop)
    (next : ∀ c s, condition c s → P s → P (step c s)) {s : σ} (init : P s) {cs : List ι}
    (h : MeetAlong step condition s cs) : P (runFrom step s cs) := by
  induction cs generalizing s with
  | nil => exact init
  | cons c cs ih => exact ih (next c s h.1 init) h.2

/-- A run meets a condition exactly if its two parts do. -/
theorem meetAlong_append {step : ι → σ → σ} {condition : ι → σ → Prop} {s : σ} {cs ds : List ι} :
    MeetAlong step condition s (cs ++ ds) ↔
      MeetAlong step condition s cs ∧ MeetAlong step condition (runFrom step s cs) ds := by
  induction cs generalizing s with
  | nil => exact (and_iff_right trivial).symm
  | cons c cs ih =>
    calc condition c s ∧ MeetAlong step condition (step c s) (cs ++ ds)
      _ ↔ condition c s ∧ MeetAlong step condition (step c s) cs ∧
          MeetAlong step condition (runFrom step (step c s) cs) ds := by rw [ih]
      _ ↔ MeetAlong step condition s (c :: cs) ∧
          MeetAlong step condition (runFrom step s (c :: cs)) ds := and_assoc.symm

/-- What each command preserves under a condition, a run that meets the condition preserves; the
property may refer to the commands issued so far. -/
theorem MeetAlong.induction_along {step : ι → σ → σ} {condition : ι → σ → Prop} {s : σ}
    (P : List ι → σ → Prop) (init : P [] s)
    (next : ∀ cs c, condition c (runFrom step s cs) → P cs (runFrom step s cs) →
      P (cs ++ [c]) (step c (runFrom step s cs)))
    {cs : List ι} (h : MeetAlong step condition s cs) : P cs (runFrom step s cs) := by
  induction cs using List.reverseRecOn with
  | nil => exact init
  | append_singleton cs c ih =>
    obtain ⟨hbefore, hlast, -⟩ := meetAlong_append.1 h
    rw [runFrom_snoc]
    exact next cs c hlast (ih hbefore)

/-- A weaker condition is met as well. -/
theorem MeetAlong.mono {step : ι → σ → σ} {condition weaker : ι → σ → Prop}
    (hweaker : ∀ c s, condition c s → weaker c s) {s : σ} {cs : List ι}
    (h : MeetAlong step condition s cs) : MeetAlong step weaker s cs := by
  induction cs generalizing s with
  | nil => trivial
  | cons c cs ih => exact ⟨hweaker c s h.1, ih h.2⟩

/-- What each allowed command preserves, a run of allowed commands preserves. -/
theorem runFrom_induction {step : ι → σ → σ} (P : σ → Prop) (allowed : ι → Prop)
    (next : ∀ c s, allowed c → P s → P (step c s)) {s : σ} (init : P s) {cs : List ι}
    (h : ∀ c ∈ cs, allowed c) : P (runFrom step s cs) := by
  induction cs generalizing s with
  | nil => exact init
  | cons c cs ih =>
    exact ih (next c s (h c List.mem_cons_self) init) fun d hd => h d (List.mem_cons_of_mem c hd)

/-- A property that a command keeps exactly under a condition holds after a run exactly if it held
before and every command met the condition. -/
theorem runFrom_iff_meetAlong {step : ι → σ → σ} {condition : ι → σ → Prop} (Inv P : σ → Prop)
    (allowed : ι → Prop) (inv : ∀ c s, allowed c → Inv s → Inv (step c s))
    (next : ∀ c s, allowed c → Inv s → (P (step c s) ↔ P s ∧ condition c s)) {s : σ} (init : Inv s)
    {cs : List ι} (h : ∀ c ∈ cs, allowed c) :
    P (runFrom step s cs) ↔ P s ∧ MeetAlong step condition s cs := by
  induction cs generalizing s with
  | nil => exact (and_iff_left trivial).symm
  | cons c cs ih =>
    have hc := h c List.mem_cons_self
    have htail : ∀ d ∈ cs, allowed d := fun d hd => h d (List.mem_cons_of_mem c hd)
    calc P (runFrom step (step c s) cs)
      _ ↔ P (step c s) ∧ MeetAlong step condition (step c s) cs := ih (inv c s hc init) htail
      _ ↔ (P s ∧ condition c s) ∧ MeetAlong step condition (step c s) cs := by rw [next c s hc init]
      _ ↔ P s ∧ MeetAlong step condition s (c :: cs) := and_assoc

/-- Where a condition keeps every state good, and a violated one breaks the state for good, a run
has a property that good states have and broken ones lack exactly if it meets the condition. -/
theorem runFrom_iff_of_broken {step : ι → σ → σ} {condition : ι → σ → Prop}
    (Good Broken P : σ → Prop) (keep : ∀ c s, Good s → condition c s → Good (step c s))
    (breaks : ∀ c s, Good s → ¬ condition c s → Broken (step c s))
    (stays : ∀ c s, Broken s → Broken (step c s)) (good : ∀ s, Good s → P s)
    (broken : ∀ s, Broken s → ¬ P s) {s : σ} (init : Good s) (cs : List ι) :
    P (runFrom step s cs) ↔ MeetAlong step condition s cs := by
  induction cs generalizing s with
  | nil => exact iff_of_true (good s init) trivial
  | cons c cs ih =>
    by_cases hc : condition c s
    · calc P (runFrom step (step c s) cs)
        _ ↔ MeetAlong step condition (step c s) cs := ih (keep c s init hc)
        _ ↔ MeetAlong step condition s (c :: cs) := (and_iff_right hc).symm
    · have hbroken : Broken (runFrom step (step c s) cs) :=
        runFrom_induction Broken (fun _ => True) (fun d t _ => stays d t) (breaks c s init hc)
          fun _ _ => trivial
      exact iff_of_false (broken _ hbroken) fun h => hc h.1

/-- What the commands of a run have put out, each in the state in which it was issued. -/
def outputsFrom {α : Type} (step : ι → σ → σ) (out : ι → σ → List α) : σ → List ι → List α
  | _, [] => []
  | s, c :: cs => out c s ++ outputsFrom step out (step c s) cs

/-- A run of two parts puts out what its parts do. -/
theorem outputsFrom_append {α : Type} (step : ι → σ → σ) (out : ι → σ → List α) (s : σ)
    (cs ds : List ι) : outputsFrom step out s (cs ++ ds) =
      outputsFrom step out s cs ++ outputsFrom step out (runFrom step s cs) ds := by
  induction cs generalizing s with
  | nil => rfl
  | cons c cs ih =>
    rw [List.cons_append, outputsFrom, outputsFrom, ih, List.append_assoc]
    rfl

/-- The last command puts out what it does in the state the earlier ones reached. -/
theorem outputsFrom_snoc {α : Type} (step : ι → σ → σ) (out : ι → σ → List α) (s : σ)
    (cs : List ι) (c : ι) : outputsFrom step out s (cs ++ [c]) =
      outputsFrom step out s cs ++ out c (runFrom step s cs) := by
  rw [outputsFrom_append, outputsFrom, outputsFrom, List.append_nil]

/-- What a run has put out was put out by one of its commands. -/
theorem mem_outputsFrom {α : Type} {step : ι → σ → σ} {out : ι → σ → List α} {s : σ} {cs : List ι}
    {a : α} (h : a ∈ outputsFrom step out s cs) :
    ∃ before c after, cs = before ++ c :: after ∧ a ∈ out c (runFrom step s before) := by
  induction cs generalizing s with
  | nil => cases h
  | cons c cs ih =>
    obtain hnow | hlater := List.mem_append.1 h
    · exact ⟨[], c, cs, rfl, hnow⟩
    · obtain ⟨before, d, after, rfl, hd⟩ := ih hlater
      exact ⟨c :: before, d, after, rfl, hd⟩

end Fleetd.Relational
