import Mathlib.Data.List.Basic
import Mathlib.Data.String.Basic
import Mathlib.Order.Basic

/-!
# Keyed tables

A table holds records under a primary key that is a function of the record, in strictly increasing
key order, as a query by primary key returns them. Order and uniqueness are part of the type.
Everything a program does to a table is described by `get?`.
-/

/-- Records in strictly increasing order of their key. -/
structure Table {α κ : Type} [LinearOrder κ] (key : α → κ) where
  rows : List α := []
  sorted : rows.Pairwise fun a b => key a < key b := by exact List.Pairwise.nil

namespace Table

variable {α κ : Type} [LinearOrder κ] {key : α → κ}

/-! ## Rows -/

def insertRow (key : α → κ) (v : α) : List α → List α
  | [] => [v]
  | r :: rest =>
    if key v < key r then v :: r :: rest
    else if key v = key r then v :: rest
    else r :: insertRow key v rest

variable {rows : List α}

theorem mem_insertRow {v r : α} (h : r ∈ insertRow key v rows) : r = v ∨ r ∈ rows := by
  induction rows with
  | nil =>
    simp only [insertRow, List.mem_singleton] at h
    exact .inl h
  | cons x rest ih =>
    unfold insertRow at h
    split_ifs at h
    · exact List.mem_cons.1 h
    · rcases List.mem_cons.1 h with h | h
      · exact .inl h
      · exact .inr (.tail _ h)
    · rcases List.mem_cons.1 h with h | h
      · exact .inr (by rw [h]; exact (.head _))
      · rcases ih h with h | h
        · exact .inl h
        · exact .inr (.tail _ h)

theorem sorted_insertRow (v : α) (h : rows.Pairwise fun a b => key a < key b) :
    (insertRow key v rows).Pairwise fun a b => key a < key b := by
  induction rows with
  | nil => simp [insertRow]
  | cons x rest ih =>
    rw [List.pairwise_cons] at h
    unfold insertRow
    split_ifs with hlt heq
    · refine List.pairwise_cons.2 ⟨fun r hr => ?_, List.pairwise_cons.2 h⟩
      rcases List.mem_cons.1 hr with rfl | hr
      · exact hlt
      · exact hlt.trans (h.1 r hr)
    · exact List.pairwise_cons.2 ⟨fun r hr => by rw [heq]; exact h.1 r hr, h.2⟩
    · refine List.pairwise_cons.2 ⟨fun r hr => ?_, ih h.2⟩
      rcases mem_insertRow hr with rfl | hr
      · exact lt_of_le_of_ne (not_lt.1 hlt) (Ne.symm heq)
      · exact h.1 r hr

theorem find?_insertRow (v : α) (k : κ) (rows : List α) : (insertRow key v rows).find?
      (fun r => key r = k) = if key v = k then some v else rows.find? fun r => key r = k := by
  induction rows with
  | nil => simp [insertRow, List.find?_cons]; split_ifs <;> simp_all
  | cons x rest ih =>
    by_cases hlt : key v < key x
    · simp only [insertRow, hlt, if_true]
      by_cases hv : key v = k <;> simp [List.find?_cons, hv]
    · by_cases heq : key v = key x
      · rw [insertRow, if_neg hlt, if_pos heq]
        by_cases hv : key v = k
        · simp [hv]
        · have hx : key x ≠ k := fun hx => hv (heq.trans hx)
          simp [hv, hx]
      · rw [insertRow, if_neg hlt, if_neg heq, List.find?_cons, List.find?_cons, ih]
        by_cases hx : key x = k
        · have hv : key v ≠ k := fun hv => heq (hv.trans hx.symm)
          simp [hx, hv]
        · simp [hx]

/-! ## Tables -/

def empty : Table key := {}

def get? (t : Table key) (k : κ) : Option α := t.rows.find? fun r => key r = k

def put (t : Table key) (v : α) : Table key :=
  ⟨insertRow key v t.rows, sorted_insertRow v t.sorted⟩

def filter (t : Table key) (p : α → Bool) : Table key :=
  ⟨t.rows.filter p, t.sorted.sublist List.filter_sublist⟩

def ofList (key : α → κ) (records : List α) : Table key :=
  records.foldl put empty

@[simp] theorem rows_empty : (empty : Table key).rows = [] := rfl

@[simp] theorem get?_empty (k : κ) : (empty : Table key).get? k = none := rfl

theorem get?_put (t : Table key) (v : α) (k : κ) :
    (t.put v).get? k = if key v = k then some v else t.get? k :=
  find?_insertRow v k t.rows

@[simp] theorem get?_put_self (t : Table key) (v : α) : (t.put v).get? (key v) = some v := by
  rw [get?_put, if_pos rfl]

variable {v : α}

theorem get?_put_of_ne (t : Table key) {k : κ} (h : key v ≠ k) : (t.put v).get? k = t.get? k := by
  rw [get?_put, if_neg h]

variable {t : Table key}

theorem key_of_get? {k : κ} (h : t.get? k = some v) : key v = k := by
  simpa using List.find?_some h

theorem mem_of_get? {k : κ} (h : t.get? k = some v) : v ∈ t.rows :=
  List.mem_of_find?_eq_some h

theorem find?_key_of_mem (hs : rows.Pairwise fun a b => key a < key b)
    (h : v ∈ rows) : rows.find? (fun r => key r = key v) = some v := by
  induction rows with
  | nil => simp at h
  | cons x rest ih =>
    rw [List.pairwise_cons] at hs
    rcases List.mem_cons.1 h with rfl | h
    · simp
    · rw [List.find?_cons_of_neg (by simpa using ne_of_lt (hs.1 v h))]
      exact ih hs.2 h

theorem mem_rows_iff : v ∈ t.rows ↔ t.get? (key v) = some v :=
  ⟨find?_key_of_mem t.sorted, mem_of_get?⟩

theorem eq_of_key_eq {v w : α} (hv : v ∈ t.rows) (hw : w ∈ t.rows) (h : key v = key w) : v = w := by
  rw [mem_rows_iff] at hv hw
  rw [h, hw, Option.some.injEq] at hv
  exact hv.symm

theorem nodup_keys (t : Table key) : (t.rows.map key).Nodup :=
  List.pairwise_map.2 (t.sorted.imp ne_of_lt)

theorem find?_reverse_rows (t : Table key) (k : κ) :
    t.rows.reverse.find? (fun r => key r = k) = t.get? k := by
  cases hfind : t.rows.reverse.find? fun r => key r = k with
  | none =>
    refine (List.find?_eq_none.2 fun r hr => ?_).symm
    exact List.find?_eq_none.1 hfind r (List.mem_reverse.2 hr)
  | some v =>
    have hv : v ∈ t.rows := List.mem_reverse.1 (List.mem_of_find?_eq_some hfind)
    have hk : key v = k := by simpa using List.find?_some hfind
    rw [← hk]
    exact (mem_rows_iff.1 hv).symm

theorem mem_put_iff {v w : α} : w ∈ (t.put v).rows ↔ w = v ∨ w ∈ t.rows ∧ key w ≠ key v := by
  rw [mem_rows_iff, get?_put, mem_rows_iff]
  split_ifs with h
  · constructor
    · intro hw
      exact .inl (Option.some.inj hw).symm
    · rintro (rfl | ⟨-, hne⟩)
      · rfl
      · exact absurd h.symm hne
  · constructor
    · intro hw
      exact .inr ⟨hw, fun hk => h hk.symm⟩
    · rintro (rfl | ⟨hw, -⟩)
      · exact absurd rfl h
      · exact hw

def SameOutside {β : Type} (group : α → β) (g : β) (t t' : Table key) : Prop :=
  ∀ w, group w ≠ g → (w ∈ t'.rows ↔ w ∈ t.rows)

theorem SameOutside.refl {β : Type} (group : α → β) (g : β) (t : Table key) :
    SameOutside group g t t :=
  fun _ _ => Iff.rfl

theorem sameOutside_put_iff {β : Type} {group : α → β} {g : β}
    (hkept : ∀ r, t.get? (key v) = some r → group v = group r)
    (hnew : t.get? (key v) = none → group v = g) :
    SameOutside group g t (t.put v) ↔ ∀ r, t.get? (key v) = some r → group r = g ∨ r = v := by
  constructor
  · intro h r hr
    by_contra! hne
    rcases mem_put_iff.1 ((h r hne.1).2 (mem_of_get? hr)) with rfl | ⟨-, hkey⟩
    · exact hne.2 rfl
    · exact hkey (key_of_get? hr)
  · intro h w hw
    rw [mem_put_iff]
    constructor
    · rintro (rfl | ⟨hmem, -⟩)
      · cases hr : t.get? (key w) with
        | none => exact absurd (hnew hr) hw
        | some r =>
          obtain rfl := (h r hr).resolve_left fun hg => hw ((hkept r hr).trans hg)
          exact mem_of_get? hr
      · exact hmem
    · intro hmem
      by_cases hkey : key w = key v
      · exact .inl ((h w (hkey ▸ mem_rows_iff.1 hmem)).resolve_left hw)
      · exact .inr ⟨hmem, hkey⟩

/-- An upsert that keeps the group of a replaced row is not seen outside a group exactly when it
replaces a row of that group, or writes what is there but for the group. -/
theorem sameOutside_upsert_iff {β : Type} {group : α → β} {g : β} (regroup : α → β → α)
    (hgroup : ∀ v b, group (regroup v b) = b) (hkey : ∀ v b, key (regroup v b) = key v)
    (hback : ∀ v b, regroup (regroup v b) (group v) = v) (hv : group v = g) :
    SameOutside group g t (t.put (regroup v (((t.get? (key v)).map group).getD (group v)))) ↔
      ∀ r, t.get? (key v) = some r → group r = g ∨ v = regroup r g := by
  rw [sameOutside_put_iff, hkey]
  · refine forall_congr' fun r => imp_congr_right fun hr => or_congr_right ?_
    rw [hr]
    constructor
    · rintro (h : r = regroup v (group r))
      rw [h, ← hv, hback]
    · rintro rfl
      exact (hback r g).symm
  · intro r hr
    rw [hkey] at hr
    rw [hr, hgroup]
    rfl
  · intro hnone
    rw [hkey] at hnone
    rw [hnone, hgroup]
    exact hv

/-- A row replaced by one of the same group leaves every key with a row of its group. -/
theorem exists_get?_put_of_same {β : Type} {v current w : α} {group : α → β}
    (hrow : t.get? (key v) = some current) (hsame : group current = group v)
    (h : ∃ r, t.get? (key w) = some r ∧ group r = group w) :
    ∃ r, (t.put v).get? (key w) = some r ∧ group r = group w := by
  obtain ⟨r, hr, hgroup⟩ := h
  by_cases hk : key v = key w
  · rw [← hk, hrow] at hr
    cases hr
    exact ⟨v, by rw [← hk, get?_put_self], hsame.symm.trans hgroup⟩
  · exact ⟨r, by rw [get?_put_of_ne _ hk, hr], hgroup⟩

theorem findSome?_of_first {β : Type} (hs : rows.Pairwise fun a b => key a < key b)
    {f : α → Option β} {b : β} (hv : v ∈ rows) (hb : f v = some b)
    (hfirst : ∀ w ∈ rows, key w < key v → f w = none) : rows.findSome? f = some b := by
  obtain ⟨before, after, rfl⟩ := List.append_of_mem hv
  refine List.findSome?_eq_some_iff.2 ⟨before, v, after, rfl, hb, fun w hw => ?_⟩
  refine hfirst w (List.mem_append_left _ hw) ?_
  exact (List.pairwise_append.1 hs).2.2 w hw v (.head _)

/-! ## Several records at once -/

def putAll (t : Table key) (vs : List α) : Table key := vs.foldl put t

@[simp] theorem putAll_nil (t : Table key) : t.putAll [] = t := rfl

@[simp] theorem putAll_cons (t : Table key) (v : α) (vs : List α) :
    t.putAll (v :: vs) = (t.put v).putAll vs := rfl

theorem mem_putAll {vs : List α} {w : α} (h : w ∈ (t.putAll vs).rows) :
    w ∈ vs ∨ w ∈ t.rows ∧ ∀ v ∈ vs, key v ≠ key w := by
  induction vs generalizing t with
  | nil => exact .inr ⟨h, by simp⟩
  | cons v vs ih =>
    rcases ih h with hw | ⟨hw, hne⟩
    · exact .inl (.tail _ hw)
    · rcases mem_put_iff.1 hw with rfl | ⟨hw, hkey⟩
      · exact .inl (.head _)
      · refine .inr ⟨hw, fun u hu => ?_⟩
        rcases List.mem_cons.1 hu with rfl | hu
        · exact hkey.symm
        · exact hne u hu

theorem mem_putAll_of_mem {vs : List α} {w : α} (hw : w ∈ t.rows)
    (h : ∀ v ∈ vs, key v = key w → v = w) : w ∈ (t.putAll vs).rows := by
  induction vs generalizing t with
  | nil => exact hw
  | cons v vs ih =>
    refine ih (mem_put_iff.2 ?_) fun u hu => h u (.tail _ hu)
    by_cases hkey : key w = key v
    · exact .inl (h v (.head _) hkey.symm).symm
    · exact .inr ⟨hw, hkey⟩

theorem get?_putAll_of_ne {vs : List α} {k : κ} (h : ∀ v ∈ vs, key v ≠ k) :
    (t.putAll vs).get? k = t.get? k := by
  induction vs generalizing t with
  | nil => rfl
  | cons v vs ih =>
    rw [putAll_cons, ih fun u hu => h u (.tail _ hu)]
    exact get?_put_of_ne t (h v (.head _))

theorem get?_putAll_of_mem {vs : List α} (hv : v ∈ vs)
    (hunique : ∀ u ∈ vs, key u = key v → u = v) : (t.putAll vs).get? (key v) = some v := by
  induction vs generalizing t with
  | nil => cases hv
  | cons u vs ih =>
    rw [putAll_cons]
    by_cases hmem : v ∈ vs
    · exact ih hmem fun w hw => hunique w (.tail _ hw)
    · have hlast : ∀ w ∈ vs, key w ≠ key v := fun w hw heq =>
        hmem (hunique w (.tail _ hw) heq ▸ hw)
      rcases List.mem_cons.1 hv with rfl | hv
      · rw [get?_putAll_of_ne hlast, get?_put_self]
      · exact absurd hv hmem

/-- Replacing rows by images under the same keys: the result holds the images, and the rows that
were not replaced. -/
theorem mem_putAll_map_iff {ws : List α} {f : α → α} (hsub : ∀ w ∈ ws, w ∈ t.rows)
    (hkey : ∀ w ∈ ws, key (f w) = key w) {u : α} :
    u ∈ (t.putAll (ws.map f)).rows ↔ (∃ w ∈ ws, f w = u) ∨ u ∈ t.rows ∧ u ∉ ws := by
  constructor
  · intro h
    rcases mem_putAll h with hu | ⟨hu, hne⟩
    · exact .inl (List.mem_map.1 hu)
    · refine .inr ⟨hu, fun hmem => ?_⟩
      exact hne (f u) (List.mem_map_of_mem hmem) (hkey u hmem)
  · rintro (⟨w, hw, rfl⟩ | ⟨hu, hnot⟩)
    · -- Split at the first replacement of this row: what follows puts the same image again.
      obtain ⟨before, after, rfl⟩ := List.append_of_mem hw
      rw [List.map_append, List.map_cons, putAll, List.foldl_append, List.foldl_cons]
      refine mem_putAll_of_mem (mem_put_iff.2 (.inl rfl)) fun v hv hk => ?_
      obtain ⟨w', hw', rfl⟩ := List.mem_map.1 hv
      have hw'mem : w' ∈ before ++ w :: after := by simp [hw']
      rw [hkey w' hw'mem, hkey w hw] at hk
      rw [eq_of_key_eq (hsub w' hw'mem) (hsub w hw) hk]
    · refine mem_putAll_of_mem hu fun v hv hk => ?_
      obtain ⟨w, hw, rfl⟩ := List.mem_map.1 hv
      rw [hkey w hw] at hk
      exact absurd (eq_of_key_eq (hsub w hw) hu hk ▸ hw) hnot

theorem get?_putAll_map [DecidableEq α] {ws : List α} {f : α → α} (hsub : ∀ w ∈ ws, w ∈ t.rows)
    (hkey : ∀ w ∈ ws, key (f w) = key w) (k : κ) :
    (t.putAll (ws.map f)).get? k = (t.get? k).map fun w => if w ∈ ws then f w else w := by
  cases hget : t.get? k with
  | none =>
    refine (get?_putAll_of_ne fun v hv hk => ?_).trans hget
    obtain ⟨w, hw, rfl⟩ := List.mem_map.1 hv
    rw [← hk, hkey w hw, mem_rows_iff.1 (hsub w hw)] at hget
    cases hget
  | some w =>
    have hrow := mem_of_get? hget
    obtain rfl := key_of_get? hget
    by_cases hw : w ∈ ws
    · rw [Option.map_some, if_pos hw, ← hkey w hw]
      exact mem_rows_iff.1 ((mem_putAll_map_iff hsub hkey).2 (.inl ⟨w, hw, rfl⟩))
    · rw [Option.map_some, if_neg hw]
      exact mem_rows_iff.1 ((mem_putAll_map_iff hsub hkey).2 (.inr ⟨hrow, hw⟩))

/-! ## Row by row -/

/-- The rows of two tables correspond under their keys, each pair in a relation. -/
structure Paired (R : α → α → Prop) (t t' : Table key) : Prop where
  forward : ∀ w ∈ t.rows, ∃ w' ∈ t'.rows, key w' = key w ∧ R w w'
  backward : ∀ w' ∈ t'.rows, ∃ w ∈ t.rows, key w' = key w ∧ R w w'

namespace Paired

variable {R R' : α → α → Prop} {t' t'' : Table key}

theorem refl (hrefl : ∀ w ∈ t.rows, R w w) : Paired R t t :=
  ⟨fun w hw => ⟨w, hw, rfl, hrefl w hw⟩, fun w hw => ⟨w, hw, rfl, hrefl w hw⟩⟩

theorem rel (h : Paired R t t') {w w' : α} (hw : w ∈ t.rows) (hw' : w' ∈ t'.rows)
    (hkey : key w' = key w) : R w w' := by
  obtain ⟨v, hv, hkey', hR⟩ := h.forward w hw
  rwa [eq_of_key_eq hw' hv (hkey.trans hkey'.symm)]

theorem mono (h : Paired R t t') (hmono : ∀ w ∈ t.rows, ∀ w' ∈ t'.rows, R w w' → R' w w') :
    Paired R' t t' where
  forward w hw := by
    obtain ⟨w', hw', hkey, hR⟩ := h.forward w hw
    exact ⟨w', hw', hkey, hmono w hw w' hw' hR⟩
  backward w' hw' := by
    obtain ⟨w, hw, hkey, hR⟩ := h.backward w' hw'
    exact ⟨w, hw, hkey, hmono w hw w' hw' hR⟩

theorem comp (h : Paired R t t') (h' : Paired R' t' t'') :
    Paired (fun w w'' => ∃ w' ∈ t'.rows, R w w' ∧ R' w' w'') t t'' where
  forward w hw := by
    obtain ⟨w', hw', hkey, hR⟩ := h.forward w hw
    obtain ⟨w'', hw'', hkey', hR'⟩ := h'.forward w' hw'
    exact ⟨w'', hw'', hkey'.trans hkey, w', hw', hR, hR'⟩
  backward w'' hw'' := by
    obtain ⟨w', hw', hkey', hR'⟩ := h'.backward w'' hw''
    obtain ⟨w, hw, hkey, hR⟩ := h.backward w' hw'
    exact ⟨w, hw, hkey'.trans hkey, w', hw', hR, hR'⟩

theorem of_putAll {ws : List α} {f : α → α} (hsub : ∀ w ∈ ws, w ∈ t.rows)
    (hkey : ∀ w ∈ ws, key (f w) = key w) :
    Paired (fun w w' => w ∈ ws ∧ w' = f w ∨ w ∉ ws ∧ w' = w) t (t.putAll (ws.map f)) where
  forward w hw := by
    by_cases hin : w ∈ ws
    · exact ⟨f w, (mem_putAll_map_iff hsub hkey).2 (.inl ⟨w, hin, rfl⟩), hkey w hin, .inl ⟨hin, rfl⟩⟩
    · exact ⟨w, (mem_putAll_map_iff hsub hkey).2 (.inr ⟨hw, hin⟩), rfl, .inr ⟨hin, rfl⟩⟩
  backward w' hw' := by
    rcases (mem_putAll_map_iff hsub hkey).1 hw' with ⟨w, hw, rfl⟩ | ⟨hw', hin⟩
    · exact ⟨w, hsub w hw, hkey w hw, .inl ⟨hw, rfl⟩⟩
    · exact ⟨w', hw', rfl, .inr ⟨hin, rfl⟩⟩

end Paired

end Table
