import Mathlib

/-!
Insertion into a list before the first element that satisfies a test, as a
cursor walk followed by `list_add_tail` on the cursor does it, and the ordering
facts that such insertions preserve.  `DoneSorted done key q` says that every
element marked `done` is at least as large as everything in front of it; a
sequence of insertions that marks each inserted element `done` keeps it, and once
every element is `done` the list is sorted.  Insertion in front of the first larger
key keeps a strictly sorted list strictly sorted, as `domain_list` and the vcpu
lists are kept.  Last, an induction rule for loops over a list whose invariant
names the elements already processed.
-/

namespace List

variable {α : Type*}

def insertBefore (p : α → Bool) (x : α) : List α → List α
  | [] => [x]
  | e :: rest => if p e then x :: e :: rest else e :: insertBefore p x rest

@[simp] theorem insertBefore_nil (p : α → Bool) (x : α) : insertBefore p x [] = [x] := rfl

theorem insertBefore_cons (p : α → Bool) (x e : α) (rest : List α) :
    insertBefore p x (e :: rest) =
      if p e then x :: e :: rest else e :: insertBefore p x rest := rfl

theorem insertBefore_split (p : α → Bool) (x : α) (q : List α) :
    ∃ front back, q = front ++ back ∧ insertBefore p x q = front ++ x :: back ∧
      (∀ e ∈ front, p e = false) ∧ ∀ e ∈ back.head?, p e = true := by
  induction q with
  | nil => exact ⟨[], [], rfl, rfl, by simp, by simp⟩
  | cons e rest ih =>
      by_cases passes : p e
      · refine ⟨[], e :: rest, rfl, ?_, by simp, by simp [passes]⟩
        simp [insertBefore_cons, passes]
      · obtain ⟨front, back, split, inserted, failing, passing⟩ := ih
        refine ⟨e :: front, back, by simp [split], ?_, ?_, passing⟩
        · simp [insertBefore_cons, passes, inserted]
        · intro f member
          rcases List.mem_cons.mp member with same | later
          · simpa [same] using passes
          · exact failing f later

theorem insertBefore_perm (p : α → Bool) (x : α) (q : List α) :
    insertBefore p x q ~ x :: q := by
  obtain ⟨front, back, split, inserted, -, -⟩ := insertBefore_split p x q
  rw [inserted, split]
  exact List.perm_middle

@[simp] theorem mem_insertBefore {p : α → Bool} {x y : α} {q : List α} :
    y ∈ insertBefore p x q ↔ y = x ∨ y ∈ q :=
  (insertBefore_perm p x q).mem_iff.trans List.mem_cons

@[simp] theorem length_insertBefore (p : α → Bool) (x : α) (q : List α) :
    (insertBefore p x q).length = q.length + 1 := by
  simpa using (insertBefore_perm p x q).length_eq

theorem nodup_insertBefore {p : α → Bool} {x : α} {q : List α}
    (fresh : x ∉ q) (distinct : q.Nodup) : (insertBefore p x q).Nodup :=
  (insertBefore_perm p x q).nodup_iff.mpr (List.nodup_cons.mpr ⟨fresh, distinct⟩)

section Order

variable {K : Type*} [LinearOrder K]

/-- Every `done` element is at least every element in front of it. -/
def DoneSorted (done : α → Prop) (key : α → K) (q : List α) : Prop :=
  q.Pairwise fun a b => done b → key a ≤ key b

theorem doneSorted_of_forall_not {done : α → Prop} (nothing : ∀ e, ¬done e) (key : α → K)
    (q : List α) : DoneSorted done key q :=
  List.pairwise_of_forall fun _ b isDone => absurd isDone (nothing b)

theorem DoneSorted.sorted {done : α → Prop} {key : α → K} {q : List α}
    (ordered : DoneSorted done key q) (all : ∀ e ∈ q, done e) :
    q.Pairwise fun a b => key a ≤ key b :=
  ordered.imp_of_mem fun _ member bounded => bounded (all _ member)

theorem DoneSorted.of_sorted {done : α → Prop} {key : α → K} {q : List α}
    (sorted : q.Pairwise fun a b => key a ≤ key b) : DoneSorted done key q := by
  unfold DoneSorted
  exact sorted.imp fun {_ b} bounded (_ : done b) => bounded

theorem DoneSorted.sublist {done : α → Prop} {key : α → K} {q q' : List α}
    (ordered : DoneSorted done key q) (smaller : q' <+ q) : DoneSorted done key q' :=
  List.Pairwise.sublist smaller ordered

theorem DoneSorted.erase [DecidableEq α] {done : α → Prop} {key : α → K} {q : List α}
    (ordered : DoneSorted done key q) (x : α) : DoneSorted done key (q.erase x) :=
  ordered.sublist (q.erase_sublist)

theorem DoneSorted.congr {done done' : α → Prop} {key key' : α → K} {q : List α}
    (ordered : DoneSorted done key q) (sameKey : ∀ e ∈ q, key' e = key e)
    (sameDone : ∀ e ∈ q, done' e → done e) : DoneSorted done' key' q :=
  ordered.imp_of_mem fun first second bounded isDone => by
    rw [sameKey _ first, sameKey _ second]
    exact bounded (sameDone _ second isDone)

theorem DoneSorted.insertBefore {done : α → Prop} {key : α → K} {q : List α}
    (ordered : DoneSorted done key q) (x : α) (fresh : x ∉ q) :
    DoneSorted (fun e => e = x ∨ done e) key
      (List.insertBefore (fun e => decide (key x ≤ key e)) x q) := by
  obtain ⟨front, back, split, inserted, failing, passing⟩ :=
    List.insertBefore_split (fun e => decide (key x ≤ key e)) x q
  rw [inserted]
  rw [split] at ordered fresh
  unfold DoneSorted at ordered ⊢
  rw [List.pairwise_append] at ordered
  obtain ⟨orderedFront, orderedBack, across⟩ := ordered
  have notInFront : x ∉ front := fun member => fresh (List.mem_append_left _ member)
  have notInBack : x ∉ back := fun member => fresh (List.mem_append_right _ member)
  have above : ∀ b ∈ back, done b → key x ≤ key b := by
    intro b member isDone
    cases back with
    | nil => simp at member
    | cons head tail =>
        have headAbove : key x ≤ key head := by simpa using passing head (by simp)
        rcases List.mem_cons.mp member with same | later
        · rw [same]
          exact headAbove
        · exact le_trans headAbove ((List.pairwise_cons.mp orderedBack).1 b later isDone)
  rw [List.pairwise_append]
  refine ⟨?_, ?_, ?_⟩
  · exact DoneSorted.congr orderedFront (fun _ _ => rfl) fun _ member isDone =>
      isDone.resolve_left fun same => notInFront (same ▸ member)
  · rw [List.pairwise_cons]
    refine ⟨fun b member isDone => ?_, ?_⟩
    · rcases isDone with same | isDone
      · exact le_of_eq (congrArg key same.symm)
      · exact above b member isDone
    · exact DoneSorted.congr orderedBack (fun _ _ => rfl) fun _ member isDone =>
        isDone.resolve_left fun same => notInBack (same ▸ member)
  · intro a frontMember b backMember isDone
    rcases List.mem_cons.mp backMember with same | later
    · rw [same]
      have below : key x ≤ key a → False := by simpa using failing a frontMember
      exact le_of_lt (lt_of_not_ge below)
    · rcases isDone with same | isDone
      · exact absurd (same ▸ later) notInBack
      · exact across a frontMember b later isDone

theorem sorted_insertBefore {key : α → K} {q : List α}
    (sorted : q.Pairwise fun a b => key a ≤ key b) (x : α) (fresh : x ∉ q) :
    (List.insertBefore (fun e => decide (key x ≤ key e)) x q).Pairwise
      fun a b => key a ≤ key b := by
  have ordered : DoneSorted (fun _ => True) key q := DoneSorted.of_sorted sorted
  exact (ordered.insertBefore x fresh).sorted (by simp)

theorem find?_least {key : α → K} {p : α → Bool} {q : List α} {x : α}
    (sorted : q.Pairwise fun a b => key a ≤ key b) (found : q.find? p = some x) :
    ∀ e ∈ q, p e = true → key x ≤ key e := by
  induction q with
  | nil => simp at found
  | cons head tail ih =>
      intro e member passes
      rw [List.pairwise_cons] at sorted
      by_cases headPasses : p head
      · rw [List.find?_cons_of_pos headPasses] at found
        cases found
        rcases List.mem_cons.mp member with same | later
        · rw [same]
        · exact sorted.1 e later
      · rw [List.find?_cons_of_neg headPasses] at found
        rcases List.mem_cons.mp member with same | later
        · exact absurd (same ▸ passes) headPasses
        · exact ih sorted.2 found e later passes

theorem strictlySorted_insertBefore {key : α → K} {q : List α}
    (sorted : q.Pairwise fun a b => key a < key b) (x : α) (fresh : ∀ e ∈ q, key e ≠ key x) :
    (List.insertBefore (fun e => decide (key x < key e)) x q).Pairwise
      fun a b => key a < key b := by
  induction q with
  | nil => simp
  | cons head tail ih =>
      rw [List.pairwise_cons] at sorted
      rw [insertBefore_cons]
      by_cases smaller : key x < key head
      · -- `x` goes in front: below the head, and so below the whole tail
        rw [if_pos (decide_eq_true smaller)]
        refine List.pairwise_cons.mpr ⟨fun e member => ?_, List.pairwise_cons.mpr sorted⟩
        rcases List.mem_cons.mp member with same | later
        · rw [same]
          exact smaller
        · exact smaller.trans (sorted.1 e later)
      · rw [if_neg (by simpa using smaller)]
        have larger : key head < key x :=
          lt_of_le_of_ne (not_lt.mp smaller) (fresh head List.mem_cons_self)
        have rest := ih sorted.2 fun e member => fresh e (List.mem_cons_of_mem head member)
        refine List.pairwise_cons.mpr ⟨fun e member => ?_, rest⟩
        rcases mem_insertBefore.mp member with same | old
        · rw [same]
          exact larger
        · exact sorted.1 e old

end Order

section Loops

variable {β : Type*}

theorem foldl_prefix_induction {f : β → α → β} (motive : List α → β → Prop) {l : List α}
    {b : β} (start : motive [] b)
    (step : ∀ p x q, l = p ++ x :: q → ∀ acc, motive p acc → motive (p ++ [x]) (f acc x)) :
    motive l (l.foldl f b) := by
  -- the rest of the loop from any point at which `p` is done
  suffices rest : ∀ r p acc, p ++ r = l → motive p acc → motive l (r.foldl f acc) from
    rest l [] b rfl start
  intro r
  induction r with
  | nil =>
      intro p acc whole holds
      rw [List.append_nil] at whole
      rw [← whole]
      exact holds
  | cons x r ih =>
      intro p acc whole holds
      exact ih (p ++ [x]) (f acc x) (by rw [← whole]; simp) (step p x r whole.symm acc holds)

end Loops

end List
