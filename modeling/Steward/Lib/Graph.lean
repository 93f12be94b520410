import Mathlib.Data.List.Perm.Subperm
import Mathlib.Logic.Relation
import Steward.Lib.Except

/-!
# Finite graphs

Closing a set of nodes under a rule by repeated sweeps over the items that may join it, listings in
which everything a node needs comes later, and hubs: extra nodes that only shortcut paths the graph
already has.
-/

namespace Graph

open Relation (TransGen ReflTransGen)

/-! ## Saturation -/

section Saturation

variable {ι α : Type} [DecidableEq α] (node : ι → α) (joins : List α → ι → Bool)

def joinItem (acc : List α) (i : ι) : List α :=
  if node i ∈ acc then acc else if joins acc i then acc ++ [node i] else acc

def sweep (items : List ι) (acc : List α) : List α := items.foldl (joinItem node joins) acc

def saturate (items : List ι) : Nat → List α → List α
  | 0, acc => acc
  | n + 1, acc =>
    if sweep node joins items acc = acc then acc else saturate items n (sweep node joins items acc)

theorem sublist_joinItem (acc : List α) (i : ι) : acc.Sublist (joinItem node joins acc i) := by
  unfold joinItem
  split_ifs
  · exact List.Sublist.refl _
  · exact List.sublist_append_left _ _
  · exact List.Sublist.refl _

theorem sublist_sweep (items : List ι) (acc : List α) : acc.Sublist (sweep node joins items acc) := by
  induction items generalizing acc with
  | nil => exact List.Sublist.refl _
  | cons i items ih => exact (sublist_joinItem node joins acc i).trans (ih _)

theorem sublist_saturate (items : List ι) (n : Nat) (acc : List α) :
    acc.Sublist (saturate node joins items n acc) := by
  induction n generalizing acc with
  | zero => exact List.Sublist.refl _
  | succ n ih =>
    rw [saturate]
    split_ifs
    · exact List.Sublist.refl _
    · exact (sublist_sweep node joins items acc).trans (ih _)

variable {node joins} {items : List ι} {acc : List α}

theorem closed_of_sweep_eq (h : sweep node joins items acc = acc) :
    ∀ i ∈ items, joins acc i = true → node i ∈ acc := by
  induction items generalizing acc with
  | nil => simp
  | cons i items ih =>
    -- the first step leaves the set alone, since what it adds would stay
    have hfirst : joinItem node joins acc i = acc := by
      have hrest := sublist_sweep node joins items (joinItem node joins acc i)
      rw [show sweep node joins items (joinItem node joins acc i) = acc from h] at hrest
      exact hrest.antisymm (sublist_joinItem node joins acc i)
    have hsweep : sweep node joins items acc = acc := by
      rw [sweep, List.foldl_cons, hfirst] at h
      exact h
    intro j hj hjoins
    rcases List.mem_cons.1 hj with rfl | hj
    · by_contra hmem
      simp [joinItem, hmem, hjoins] at hfirst
    · exact ih hsweep j hj hjoins

theorem exists_new_of_sweep_ne (h : sweep node joins items acc ≠ acc) :
    ∃ i ∈ items, node i ∈ sweep node joins items acc ∧ node i ∉ acc := by
  induction items generalizing acc with
  | nil => exact absurd rfl h
  | cons i items ih =>
    by_cases hfirst : joinItem node joins acc i = acc
    · have hsweep : sweep node joins (i :: items) acc = sweep node joins items acc := by
        rw [sweep, List.foldl_cons, hfirst]
        rfl
      rw [hsweep] at h ⊢
      obtain ⟨j, hj, hnew⟩ := ih h
      exact ⟨j, .tail _ hj, hnew⟩
    · have hfresh : node i ∉ acc := fun hmem => hfirst (if_pos hmem)
      have hadded : node i ∈ joinItem node joins acc i := by
        unfold joinItem at hfirst ⊢
        split_ifs at hfirst ⊢ <;> simp_all
      exact ⟨i, (.head _), (sublist_sweep node joins items _).subset hadded, hfresh⟩

/-- Sweeping as often as nodes are missing reaches a set the rule adds nothing to. -/
theorem closed_saturate {n : Nat} (hn : (items.filter fun i => node i ∉ acc).length ≤ n) :
    ∀ i ∈ items, joins (saturate node joins items n acc) i = true →
      node i ∈ saturate node joins items n acc := by
  induction n generalizing acc with
  | zero =>
    intro i hi hjoins
    by_contra hmem
    have : i ∈ items.filter fun i => node i ∉ acc := List.mem_filter.2 ⟨hi, decide_eq_true hmem⟩
    rw [List.length_eq_zero_iff.1 (Nat.le_zero.1 hn)] at this
    cases this
  | succ n ih =>
    rw [saturate]
    split_ifs with hstable
    · exact closed_of_sweep_eq hstable
    · refine ih (Nat.le_of_lt_succ (Nat.lt_of_lt_of_le ?_ hn))
      -- the sweep found a missing node, and what it had before it keeps
      have hkept : (items.filter fun i => node i ∉ sweep node joins items acc) =
          (items.filter fun i => node i ∉ acc).filter fun i => node i ∉ sweep node joins items
          acc := by
        rw [List.filter_filter]
        refine List.filter_congr fun i _ => ?_
        have := (sublist_sweep node joins items acc).subset (a := node i)
        by_cases hmem : node i ∈ sweep node joins items acc <;> by_cases hold : node i ∈ acc <;>
          simp_all
      obtain ⟨i, hi, hnew, hfresh⟩ := exists_new_of_sweep_ne hstable
      rw [hkept]
      exact List.length_filter_lt_length_iff_exists.2
        ⟨i, List.mem_filter.2 ⟨hi, decide_eq_true hfresh⟩, by simp [hnew]⟩

def Edge (node : ι → α) (sees : α → ι → Prop) (items : List ι) (a b : α) : Prop :=
  ∃ i ∈ items, node i = b ∧ sees a i

variable {sees : α → ι → Prop}

theorem reaches_of_mem_sweep (hsees : ∀ acc i, joins acc i = true → ∃ a ∈ acc, sees a i)
    {whole : List ι} (hsub : ∀ i ∈ items, i ∈ whole) {P : α → Prop}
    (hstep : ∀ a b, P a → Edge node sees whole a b → P b) (hacc : ∀ a ∈ acc, P a) :
    ∀ a ∈ sweep node joins items acc, P a := by
  induction items generalizing acc with
  | nil => exact hacc
  | cons i items ih =>
    refine ih (fun j hj => hsub j (.tail _ hj)) fun a ha => ?_
    unfold joinItem at ha
    split_ifs at ha with _ hjoins
    · exact hacc a ha
    · rcases List.mem_append.1 ha with ha | ha
      · exact hacc a ha
      · obtain ⟨b, hb, hsee⟩ := hsees acc i hjoins
        rw [List.mem_singleton.1 ha]
        exact hstep b _ (hacc b hb) ⟨i, hsub i (.head _), rfl, hsee⟩
    · exact hacc a ha

theorem reaches_of_mem_saturate (hsees : ∀ acc i, joins acc i = true → ∃ a ∈ acc, sees a i)
    {P : α → Prop} (hstep : ∀ a b, P a → Edge node sees items a b → P b) {n : Nat}
    (hacc : ∀ a ∈ acc, P a) : ∀ a ∈ saturate node joins items n acc, P a := by
  induction n generalizing acc with
  | zero => exact hacc
  | succ n ih =>
    rw [saturate]
    split_ifs
    · exact hacc
    · exact ih (reaches_of_mem_sweep hsees (fun _ hi => hi) hstep hacc)

theorem mem_saturate_iff (hsees : ∀ acc i, joins acc i = true ↔ ∃ a ∈ acc, sees a i) {n : Nat}
    (hn : items.length ≤ n) {root a : α} :
    a ∈ saturate node joins items n [root] ↔ ReflTransGen (Edge node sees items) root a := by
  constructor
  · intro ha
    refine reaches_of_mem_saturate (fun acc i => (hsees acc i).1) (P := _)
      (fun a b hpath hedge => hpath.tail hedge) ?_ a ha
    intro b hb
    rw [List.mem_singleton.1 hb]
  · intro hpath
    have hclosed : ∀ i ∈ items, joins (saturate node joins items n [root]) i = true →
        node i ∈ saturate node joins items n [root] :=
      closed_saturate (Nat.le_trans (List.length_filter_le _ items) hn)
    induction hpath with
    | refl => exact (sublist_saturate node joins items n [root]).subset (.head _)
    | tail _ hedge ih =>
      obtain ⟨i, hi, rfl, hsee⟩ := hedge
      exact hclosed i hi ((hsees _ i).2 ⟨_, ih, hsee⟩)

theorem nodup_sweep (h : acc.Nodup) : (sweep node joins items acc).Nodup := by
  induction items generalizing acc with
  | nil => exact h
  | cons i items ih =>
    refine ih ?_
    unfold joinItem
    split_ifs with hmem
    · exact h
    · exact List.nodup_append.2 ⟨h, by simp, by simpa using fun a ha (heq : a = node i) => hmem (heq ▸ ha)⟩
    · exact h

theorem nodup_saturate {n : Nat} (h : acc.Nodup) : (saturate node joins items n acc).Nodup := by
  induction n generalizing acc with
  | zero => exact h
  | succ n ih =>
    rw [saturate]
    split_ifs
    · exact h
    · exact ih (nodup_sweep h)

end Saturation

/-! ## Listings -/

section Listing

variable {α : Type} {R : α → α → Prop}

/-- A listing without repetition in which everything an element needs stands after it. -/
def Listed (R : α → α → Prop) : List α → Prop
  | [] => True
  | a :: rest => a ∉ rest ∧ (∀ b, R a b → b ∈ rest) ∧ Listed R rest

theorem Listed.mem_of_transGen {l : List α} (h : Listed R l) {a b : α} (ha : a ∈ l)
    (hab : TransGen R a b) : b ∈ l := by
  have hstep : ∀ {l : List α}, Listed R l → ∀ {a b : α}, a ∈ l → R a b → b ∈ l := by
    intro l hl a b ha hR
    induction l with
    | nil => cases ha
    | cons c rest ih =>
      rcases List.mem_cons.1 ha with rfl | ha
      · exact .tail _ (hl.2.1 b hR)
      · exact .tail _ (ih hl.2.2 ha)
  induction hab with
  | single hR => exact hstep h ha hR
  | tail _ hR ih => exact hstep h ih hR

theorem Listed.acyclic {l : List α} (h : Listed R l) {a : α} (ha : a ∈ l) : ¬TransGen R a a := by
  induction l with
  | nil => cases ha
  | cons c rest ih =>
    rcases List.mem_cons.1 ha with rfl | ha
    · intro hcycle
      -- its first need is in the rest, and so is all that follows from there
      obtain ⟨b, hR, hback⟩ := TransGen.head'_iff.1 hcycle
      have hb : b ∈ rest := h.2.1 b hR
      rcases Relation.reflTransGen_iff_eq_or_transGen.1 hback with hab | hback
      · exact h.1 (hab ▸ hb)
      · exact h.1 (h.2.2.mem_of_transGen hb hback)
    · exact ih h.2.2 ha

end Listing

/-! ## Searches -/

section Search

variable {ε α : Type} {below : α → Option (List α)}
  {visit : Nat → List α → List α → α → Except ε (List α)}
  {path done done' l : List α} {a : α} {n : Nat}

/-- A depth-first search: a visit finishes what is below a node, lists the node before it, and
refuses a node that is met again on its path. -/
structure Searches (below : α → Option (List α))
    (visit : Nat → List α → List α → α → Except ε (List α)) : Prop where
  zero : ∀ path done a done', visit 0 path done a ≠ .ok done'
  succ : ∀ n path done a done', visit (n + 1) path done a = .ok done' ↔ a ∉ path ∧
    (a ∈ done ∧ done = done' ∨ a ∉ done ∧ ∃ next, below a = some next ∧
      ∃ mid, next.foldlM (visit n (a :: path)) done = .ok mid ∧ a :: mid = done')

def Leads (below : α → Option (List α)) (a b : α) : Prop := ∃ next, below a = some next ∧ b ∈ next

/-- What a part of a search does to the finished nodes. -/
structure Walked (below : α → Option (List α)) (path before after : List α) : Prop where
  listed : Listed (Leads below) before → Listed (Leads below) after
  kept : ∀ a ∈ before, a ∈ after
  fresh : ∀ a ∈ path, a ∈ after → a ∈ before
  expanded : ∀ a ∈ after, a ∈ before ∨ (below a).isSome

theorem Walked.refl (path done : List α) : Walked below path done done :=
  ⟨id, fun _ h => h, fun _ _ h => h, fun _ h => .inl h⟩

theorem Walked.trans {before mid after : List α} (h : Walked below path before mid)
    (h' : Walked below path mid after) : Walked below path before after :=
  ⟨fun hl => h'.listed (h.listed hl), fun a ha => h'.kept a (h.kept a ha),
    fun a ha hm => h.fresh a ha (h'.fresh a ha hm),
    fun a ha => (h'.expanded a ha).elim (h.expanded a) .inr⟩

theorem fold_walked {f : List α → α → Except ε (List α)}
    (hf : ∀ done b done', f done b = .ok done' → Walked below path done done' ∧ b ∈ done')
    (h : l.foldlM f done = .ok done') : Walked below path done done' ∧ ∀ b ∈ l, b ∈ done' :=
  ⟨Except.foldlM_invariant (I := Walked below path done)
      (fun s b _ s' hs hb => hs.trans (hf s b s' hb).1) (.refl path done) h,
    Except.foldlM_each (Q := fun b s => b ∈ s) (fun s b s' hb => (hf s b s' hb).2)
      (fun s b s' c hc hb => (hf s b s' hb).1.kept c hc) h⟩

namespace Searches

variable (hs : Searches below visit)
include hs

theorem walked (h : visit n path done a = .ok done') : Walked below path done done' ∧ a ∈ done' := by
  induction n generalizing path done done' a with
  | zero => exact absurd h (hs.zero _ _ _ _)
  | succ n ih =>
    obtain ⟨hpath, ⟨hdone, rfl⟩ | ⟨hdone, next, hnext, mid, hbelow, rfl⟩⟩ := (hs.succ ..).1 h
    · exact ⟨.refl _ _, hdone⟩
    · obtain ⟨hwalk, hall⟩ := fold_walked (fun _ _ _ h => ih h) hbelow
      -- the node is on the path to those below it, so finishing them did not finish it
      have hfresh : a ∉ mid := fun hm => hdone (hwalk.fresh a (.head _) hm)
      refine ⟨⟨fun hl => ⟨hfresh, ?_, hwalk.listed hl⟩, fun b hb => .tail _ (hwalk.kept b hb), ?_,
        ?_⟩, .head _⟩
      · rintro b ⟨next', hnext', hb⟩
        cases hnext.symm.trans hnext'
        exact hall b hb
      · intro b hb hm
        rcases List.mem_cons.1 hm with rfl | hm
        · exact absurd hb hpath
        · exact hwalk.fresh b (.tail _ hb) hm
      · intro b hb
        rcases List.mem_cons.1 hb with rfl | hb
        · exact .inr (by rw [hnext]; rfl)
        · exact hwalk.expanded b hb

/-- Among nodes that lead only to each other, a search with a step for each of them is stopped by
nothing but a cycle. -/
theorem exists_ok (hnext : ∀ a ∈ l, ∃ next, below a = some next ∧ next ⊆ l)
    (hacyclic : ∀ a ∈ l, ¬TransGen (Leads below) a a) (hnodup : path.Nodup) (hsub : path ⊆ l)
    (hn : l.length < n + path.length) (ha : a ∈ l) (hpath : ∀ p ∈ path, TransGen (Leads below) p a) :
    ∃ done', visit n path done a = .ok done' := by
  induction n generalizing path done a with
  | zero =>
    have := (List.subperm_of_subset hnodup hsub).length_le
    omega
  | succ n ih =>
    have hnew : a ∉ path := fun hm => hacyclic a ha (hpath a hm)
    obtain ⟨next, hbelow, hin⟩ := hnext a ha
    by_cases hdone : a ∈ done
    · exact ⟨done, (hs.succ ..).2 ⟨hnew, .inl ⟨hdone, rfl⟩⟩⟩
    have hvisit : ∀ done, ∀ b ∈ next, ∃ done', visit n (a :: path) done b = .ok done' := by
      intro done b hb
      have hab : Leads below a b := ⟨next, hbelow, hb⟩
      refine ih (List.nodup_cons.2 ⟨hnew, hnodup⟩) (List.cons_subset.2 ⟨ha, hsub⟩) ?_ (hin hb) ?_
      · rw [List.length_cons]
        omega
      · intro p hp
        rcases List.mem_cons.1 hp with rfl | hp
        · exact .single hab
        · exact (hpath p hp).tail hab
    obtain ⟨mid, hmid⟩ := Except.exists_foldlM hvisit done
    exact ⟨_, (hs.succ ..).2 ⟨hnew, .inr ⟨hdone, next, hbelow, mid, hmid, rfl⟩⟩⟩

/-- A search from all nodes succeeds exactly when each can be expanded and none is on a cycle. -/
theorem all_ok_iff {nodes : List α} (hnodes : ∀ a, a ∈ nodes ↔ a ∈ l)
    (hdom : ∀ a ∈ l, ∀ b, Leads below a b → (below b).isSome → b ∈ l) :
    (∃ done, nodes.foldlM (visit (l.length + 1) []) [] = .ok done) ↔
      (∀ a ∈ l, ∃ next, below a = some next ∧ next ⊆ l) ∧ ∀ a ∈ l, ¬TransGen (Leads below) a a := by
  constructor
  · rintro ⟨done, h⟩
    obtain ⟨hwalk, hall⟩ := fold_walked (fun _ _ _ => hs.walked) h
    have hlisted := hwalk.listed trivial
    have hsome : ∀ a ∈ done, (below a).isSome := fun a ha =>
      (hwalk.expanded a ha).resolve_left List.not_mem_nil
    have hdone : ∀ a ∈ l, a ∈ done := fun a ha => hall a ((hnodes a).2 ha)
    refine ⟨fun a ha => ?_, fun a ha => hlisted.acyclic (hdone a ha)⟩
    obtain ⟨next, hnext⟩ := Option.isSome_iff_exists.1 (hsome a (hdone a ha))
    refine ⟨next, hnext, fun b hb => ?_⟩
    have hab : Leads below a b := ⟨next, hnext, hb⟩
    exact hdom a ha b hab (hsome b (hlisted.mem_of_transGen (hdone a ha) (.single hab)))
  · rintro ⟨hnext, hacyclic⟩
    refine Except.exists_foldlM (fun done a ha => ?_) []
    exact hs.exists_ok hnext hacyclic List.nodup_nil (by simp) (by simp) ((hnodes a).1 ha) (by simp)

end Searches

end Search

/-! ## Hubs -/

section Hubs

variable {α β : Type} {R : α → α → Prop} {into out : β → α → Prop}

/-- A graph with hubs: nodes lead into a hub, and the hub out to nodes. -/
inductive WithHubs (R : α → α → Prop) (into out : β → α → Prop) : α ⊕ β → α ⊕ β → Prop
  | edge {a b : α} : R a b → WithHubs R into out (.inl a) (.inl b)
  | enter {a : α} {h : β} : into h a → WithHubs R into out (.inl a) (.inr h)
  | leave {h : β} {b : α} : out h b → WithHubs R into out (.inr h) (.inl b)

def Between (R : α → α → Prop) (into out : β → α → Prop) : α ⊕ β → α ⊕ β → Prop
  | .inl a, .inl b => TransGen R a b
  | .inl a, .inr h => ∃ b, into h b ∧ ReflTransGen R a b
  | .inr h, .inl b => ∃ a, out h a ∧ ReflTransGen R a b
  | .inr h, .inr h' => ∃ a b, out h a ∧ into h' b ∧ ReflTransGen R a b

/-- Where every way through a hub shortcuts a path, so does every path through hubs. -/
theorem between_of_path (hhub : ∀ h a b, into h a → out h b → TransGen R a b) {x y : α ⊕ β}
    (hpath : TransGen (WithHubs R into out) x y) : Between R into out x y := by
  induction hpath with
  | single hedge =>
    cases hedge with
    | edge hR => exact .single hR
    | enter hin => exact ⟨_, hin, .refl⟩
    | leave hout => exact ⟨_, hout, .refl⟩
  | tail _ hedge ih =>
    cases hedge with
    | edge hR =>
      rcases x with a | h
      · exact ih.tail hR
      · obtain ⟨a, hout, hpath⟩ := ih
        exact ⟨a, hout, hpath.tail hR⟩
    | enter hin =>
      rcases x with a | h
      · exact ⟨_, hin, ih.to_reflTransGen⟩
      · obtain ⟨a, hout, hpath⟩ := ih
        exact ⟨a, _, hout, hin, hpath⟩
    | leave hout =>
      rcases x with a | h
      · obtain ⟨b, hin, hpath⟩ := ih
        exact TransGen.trans_right hpath (hhub _ b _ hin hout)
      · obtain ⟨a, b, hout', hin, hpath⟩ := ih
        exact ⟨a, hout', hpath.trans (hhub _ b _ hin hout).to_reflTransGen⟩

theorem acyclic_withHubs (hR : ∀ a, ¬TransGen R a a)
    (hhub : ∀ h a b, into h a → out h b → TransGen R a b) (x : α ⊕ β) :
    ¬TransGen (WithHubs R into out) x x := by
  intro hcycle
  have hbetween := between_of_path hhub hcycle
  rcases x with a | h
  · exact hR a hbetween
  · obtain ⟨a, b, hout, hin, hpath⟩ := hbetween
    exact hR b (TransGen.trans_left (hhub h b a hin hout) hpath)

end Hubs

end Graph
