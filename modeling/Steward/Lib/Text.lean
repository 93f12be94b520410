import Mathlib.Data.List.Infix

/-!
# Identities built from text

Blank and trimmed strings as Go's `strings.TrimSpace` sees them, and identities built as
`base:number`: the number is written in digits, so the last separator splits the identity back
into its parts.
-/

namespace Text

variable (c : Char) (s : String)

/-- Go's `unicode.IsSpace`: the characters with the White Space property. -/
def isSpace : Bool :=
  let n := c.toNat
  (9 ≤ n && n ≤ 13) || n == 32 || n == 0x85 || n == 0xa0 || n == 0x1680 ||
    (0x2000 ≤ n && n ≤ 0x200a) || n == 0x2028 || n == 0x2029 || n == 0x202f || n == 0x205f ||
    n == 0x3000

/-- Go's `strings.TrimSpace(s) == ""`. -/
def blank : Bool := s.toList.all isSpace

/-- Go's `strings.TrimSpace(s) == s`: no space at either end. -/
def trimmed : Bool :=
  s.toList.head?.all (fun c => !isSpace c) && s.toList.getLast?.all (fun c => !isSpace c)

def proper : Bool := s ≠ "" ∧ trimmed s = true

/-- Go's `strings.TrimSpace`. -/
def trim : String :=
  String.ofList ((s.toList.dropWhile isSpace).reverse.dropWhile isSpace).reverse

/-- Go's `strings.Contains(s, sub)`. -/
def contains (s sub : String) : Bool := s.toList.tails.any fun t => sub.toList.isPrefixOf t

/-- Go's `strings.HasPrefix(s, start)`. -/
def startsWith (s start : String) : Bool := start.toList.isPrefixOf s.toList

/-- Go's `unicode.IsControl`: the characters of category Cc. -/
def isControl : Bool := c.toNat < 0x20 || (0x7f ≤ c.toNat && c.toNat < 0xa0)

/-- The ranges of category Cf, then the line and the paragraph separator (Zl, Zp). -/
def formatRanges : List (Nat × Nat) :=
  [(0xad, 0xad), (0x600, 0x605), (0x61c, 0x61c), (0x6dd, 0x6dd), (0x70f, 0x70f), (0x890, 0x891),
    (0x8e2, 0x8e2), (0x180e, 0x180e), (0x200b, 0x200f), (0x202a, 0x202e), (0x2060, 0x2064),
    (0x2066, 0x206f), (0xfeff, 0xfeff), (0xfff9, 0xfffb), (0x110bd, 0x110bd), (0x110cd, 0x110cd),
    (0x13430, 0x1343f), (0x1bca0, 0x1bca3), (0x1d173, 0x1d17a), (0xe0001, 0xe0001),
    (0xe0020, 0xe007f), (0x2028, 0x2028), (0x2029, 0x2029)]

/-- Go's `unicode.In(c, unicode.Cf, unicode.Zl, unicode.Zp)`. -/
def isFormat : Bool := formatRanges.any fun (lo, hi) => lo ≤ c.toNat && c.toNat ≤ hi

def hexDigit : Bool :=
  ('0' ≤ c ∧ c ≤ '9') ∨ ('a' ≤ c ∧ c ≤ 'f') ∨ ('A' ≤ c ∧ c ≤ 'F')

variable {c : Char} {a b : String} {n : Int}

theorem isSpace_of_isDigit (h : c.isDigit = true) : isSpace c = false := by
  have hge : 48 ≤ c.toNat := (Char.isDigit_iff_toNat.1 h).1
  have hle : c.toNat ≤ 57 := (Char.isDigit_iff_toNat.1 h).2
  simp [isSpace]
  omega

theorem isSpace_of_hexDigit (h : hexDigit c = true) : isSpace c = false := by
  simp only [hexDigit, decide_eq_true_eq, Char.le_def, UInt32.le_iff_toNat_le] at h
  have hge : 48 ≤ c.toNat ∧ c.toNat ≤ 102 := by
    rcases h with ⟨h, h'⟩ | ⟨h, h'⟩ | ⟨h, h'⟩
    · exact ⟨h, Nat.le_trans h' (by decide)⟩
    · exact ⟨Nat.le_trans (by decide) h, h'⟩
    · exact ⟨Nat.le_trans (by decide) h, Nat.le_trans h' (by decide)⟩
  simp [isSpace]
  omega

theorem hexDigit_of_isDigit (h : c.isDigit = true) : hexDigit c = true := by
  simp only [Char.isDigit, Bool.and_eq_true, decide_eq_true_eq] at h
  exact decide_eq_true (.inl h)

theorem proper_of_no_space {s : String} (hne : s ≠ "") (h : ∀ c ∈ s.toList, isSpace c = false) :
    proper s = true := by
  simp only [proper, trimmed, Bool.and_eq_true, decide_eq_true_eq]
  refine ⟨hne, ?_, ?_⟩
  · cases hhead : s.toList.head? with
    | none => rfl
    | some c => simp [h c (List.mem_of_head? hhead)]
  · cases hlast : s.toList.getLast? with
    | none => rfl
    | some c => simp [h c (List.mem_of_getLast? hlast)]

/-! ## Decimal numbers -/

theorem mem_toString_int (h : c ∈ (toString n).toList) : c.isDigit = true ∨ c = '-' := by
  cases n with
  | ofNat m =>
    left
    have h' : c ∈ m.repr.toList := h
    rw [Nat.toList_repr] at h'
    exact Nat.isDigit_of_mem_toDigits (by decide) (by decide) h'
  | negSucc m =>
    have h' : c ∈ ("-" ++ (m + 1).repr).toList := h
    rw [String.toList_append, List.mem_append, Nat.toList_repr] at h'
    rcases h' with h' | h'
    · right
      simpa using h'
    · left
      exact Nat.isDigit_of_mem_toDigits (by decide) (by decide) h'

theorem toString_int_ne_nil (n : Int) : (toString n).toList ≠ [] := by
  cases n with
  | ofNat m =>
    have h : (toString (Int.ofNat m)).toList = m.repr.toList := rfl
    rw [h, Nat.toList_repr]
    exact Nat.toDigits_ne_nil
  | negSucc m =>
    have h : (toString (Int.negSucc m)).toList = ("-" ++ (m + 1).repr).toList := rfl
    rw [h, String.toList_append]
    simp

theorem not_mem_toString {sep : Char} (hdigit : sep.isDigit = false) (hsign : sep ≠ '-') (n : Int) :
    sep ∉ (toString n).toList := by
  intro h
  rcases mem_toString_int h with h | h
  · rw [hdigit] at h
    cases h
  · exact hsign h

theorem minus_not_mem_repr (m : Nat) : '-' ∉ m.repr.toList := by
  intro h
  rw [Nat.toList_repr] at h
  exact absurd (Nat.isDigit_of_mem_toDigits (by decide) (by decide) h) (by decide)

theorem nat_repr_inj {m n : Nat} (h : m.repr = n.repr) : m = n := by
  have hdigits : Nat.toDigits 10 m = Nat.toDigits 10 n := by
    rw [← Nat.toList_repr, ← Nat.toList_repr, h]
  rw [← @Nat.ofDigitChars_ten_toDigits m, ← @Nat.ofDigitChars_ten_toDigits n, hdigits]

theorem toString_int_inj {m : Int} (h : toString m = toString n) : m = n := by
  cases m with
  | ofNat m =>
    cases n with
    | ofNat n =>
      have h' : m.repr = n.repr := h
      rw [nat_repr_inj h']
    | negSucc n =>
      have h' : m.repr = "-" ++ (n + 1).repr := h
      exact absurd (by rw [h']; simp) (minus_not_mem_repr m)
  | negSucc m =>
    cases n with
    | ofNat n =>
      have h' : "-" ++ (m + 1).repr = n.repr := h
      exact absurd (by rw [← h']; simp) (minus_not_mem_repr n)
    | negSucc n =>
      have h' : "-" ++ (m + 1).repr = "-" ++ (n + 1).repr := h
      have h'' := nat_repr_inj (String.append_right_inj _ |>.1 h')
      rw [Nat.succ.inj h'']

/-! ## Numbered identities -/

theorem append_cons_inj {sep : Char} {a b d e : List Char} (hd : sep ∉ d) (he : sep ∉ e)
    (h : a ++ sep :: d = b ++ sep :: e) : a = b ∧ d = e := by
  rcases List.append_eq_append_iff.1 h with ⟨x, hb, hd'⟩ | ⟨x, ha, he'⟩
  · cases x with
    | nil =>
      rw [List.nil_append, List.cons.injEq] at hd'
      exact ⟨by rw [hb, List.append_nil], hd'.2⟩
    | cons y x =>
      rw [List.cons_append, List.cons.injEq] at hd'
      exact absurd (by rw [hd'.2]; simp) hd
  · cases x with
    | nil =>
      rw [List.nil_append, List.cons.injEq] at he'
      exact ⟨by rw [ha, List.append_nil], he'.2.symm⟩
    | cons y x =>
      rw [List.cons_append, List.cons.injEq] at he'
      exact absurd (by rw [he'.2]; simp) he

def numbered (base : String) (n : Int) : String := base ++ ":" ++ toString n

theorem toList_numbered (base : String) (n : Int) :
    (numbered base n).toList = base.toList ++ ':' :: (toString n).toList := by
  simp [numbered, String.toList_append]

theorem colon_not_mem_toString (n : Int) : ':' ∉ (toString n).toList :=
  not_mem_toString (by decide) (by decide) n

theorem numbered_base_inj {m : Int} (h : numbered a m = numbered b n) : a = b := by
  have h' := congrArg String.toList h
  rw [toList_numbered, toList_numbered] at h'
  exact String.toList_inj.1
    (append_cons_inj (colon_not_mem_toString m) (colon_not_mem_toString n) h').1

theorem numbered_proper {base : String} (hne : base ≠ "")
    (h : base.toList.head?.all (fun c => !isSpace c))
    (n : Int) : proper (numbered base n) = true := by
  have hlist : base.toList ≠ [] := fun hnil => hne (String.toList_inj.1 (by simpa using hnil))
  have hhead : (numbered base n).toList.head? = base.toList.head? := by
    rw [toList_numbered, List.head?_append_of_ne_nil _ hlist]
  have hlast : (numbered base n).toList.getLast? = (toString n).toList.getLast? := by
    rw [toList_numbered, List.getLast?_append_of_ne_nil _ (List.cons_ne_nil _ _)]
    exact List.getLast?_cons_of_ne_nil (toString_int_ne_nil n)
  have hnonempty : numbered base n ≠ "" := by
    intro hempty
    have := congrArg String.toList hempty
    rw [toList_numbered] at this
    simp at this
  simp only [proper, decide_eq_true_eq]
  refine ⟨hnonempty, ?_⟩
  rw [trimmed, hhead, hlast, h, Bool.true_and]
  cases hl : (toString n).toList.getLast? with
  | none => rfl
  | some c =>
    have hmem := List.mem_of_getLast? hl
    rcases mem_toString_int hmem with hdigit | rfl
    · simp [isSpace_of_isDigit hdigit]
    · decide

theorem proper_append {base s : String} (hbase : base.toList.head?.all (fun c => !isSpace c))
    (hs : proper s = true) : proper (base ++ s) = true := by
  simp only [proper, decide_eq_true_eq, trimmed, Bool.and_eq_true] at hs ⊢
  obtain ⟨hne, hfirst, hlast⟩ := hs
  have hlist : s.toList ≠ [] := fun hnil => hne (String.toList_inj.1 (by simpa using hnil))
  rw [String.toList_append, List.getLast?_append_of_ne_nil _ hlist]
  refine ⟨fun hempty => hlist ?_, ?_, hlast⟩
  · have hnil := congrArg String.toList hempty
    rw [String.toList_append, String.toList_empty] at hnil
    exact (List.append_eq_nil_iff.1 hnil).2
  · cases hb : base.toList with
    | nil => rwa [List.nil_append]
    | cons c rest =>
      rw [hb] at hbase
      exact hbase

theorem proper_between (ha : proper a = true) (hb : proper b = true) (s : String) :
    proper (a ++ s ++ b) = true := by
  simp only [proper, decide_eq_true_eq, trimmed, Bool.and_eq_true] at ha hb ⊢
  obtain ⟨hane, hafirst, -⟩ := ha
  obtain ⟨hbne, -, hblast⟩ := hb
  have halist : a.toList ≠ [] := fun hnil => hane (String.toList_inj.1 (by simpa using hnil))
  have hblist : b.toList ≠ [] := fun hnil => hbne (String.toList_inj.1 (by simpa using hnil))
  rw [String.toList_append, String.toList_append, List.getLast?_append_of_ne_nil _ hblist,
    List.append_assoc, List.head?_append_of_ne_nil _ halist]
  refine ⟨fun hempty => halist ?_, hafirst, hblast⟩
  have hnil := congrArg String.toList hempty
  rw [String.toList_append, String.toList_append, String.toList_empty, List.append_assoc] at hnil
  exact (List.append_eq_nil_iff.1 hnil).1

theorem append_ne (n : Nat) (ha : n ≤ a.toList.length) (hb : n ≤ b.toList.length)
    (h : a.toList.take n ≠ b.toList.take n) (x y : String) : a ++ x ≠ b ++ y := by
  intro heq
  have hlist := congrArg (fun s => s.toList.take n) heq
  simp only [String.toList_append, List.take_append_of_le_length ha,
    List.take_append_of_le_length hb] at hlist
  exact h hlist

theorem append_ne_right (n : Nat) (ha : n ≤ a.toList.length) (hb : n ≤ b.toList.length)
    (h : a.toList.reverse.take n ≠ b.toList.reverse.take n) (x y : String) : x ++ a ≠ y ++ b := by
  intro heq
  have hlist := congrArg (fun s => s.toList.reverse.take n) heq
  rw [← List.length_reverse] at ha hb
  simp only [String.toList_append, List.reverse_append, List.take_append_of_le_length ha,
    List.take_append_of_le_length hb] at hlist
  exact h hlist

theorem contains_iff {s sub : String} : contains s sub = true ↔ sub.toList <:+: s.toList := by
  simp [contains, List.infix_iff_prefix_suffix, and_comm]

/-- Parts of known lengths can be read back from what they are joined to. -/
theorem intercalate_inj {sep : String} {a b : List String}
    (hlen : a.map String.length = b.map String.length)
    (h : sep.intercalate a = sep.intercalate b) : a = b := by
  induction a generalizing b with
  | nil => exact (List.map_eq_nil_iff.1 hlen.symm).symm
  | cons x a ih =>
    obtain ⟨y, b, rfl, hy, hrest⟩ := List.map_eq_cons_iff.1 hlen.symm
    cases a with
    | nil =>
      obtain rfl := List.map_eq_nil_iff.1 hrest
      simpa using h
    | cons x' a =>
      obtain ⟨y', b, rfl, -⟩ := List.map_eq_cons_iff.1 hrest
      simp only [String.intercalate_cons_cons, ← String.toList_inj, String.toList_append,
        List.append_assoc] at h
      obtain ⟨hfirst, hjoined⟩ := List.append_inj h
        (by simpa only [String.length_toList] using hy.symm)
      rw [String.toList_inj.1 hfirst, ih hrest.symm
        (String.toList_inj.1 (List.append_cancel_left hjoined))]

theorem infix_intercalate {sep s : String} {l : List String} (h : s ∈ l) :
    s.toList <:+: (sep.intercalate l).toList := by
  induction l with
  | nil => cases h
  | cons a l ih =>
    cases l with
    | nil =>
      rw [List.mem_singleton.1 h, String.intercalate_singleton]
    | cons b l =>
      rw [String.intercalate_cons_cons, String.toList_append, String.toList_append]
      rcases List.mem_cons.1 h with rfl | h
      · rw [List.append_assoc]
        exact List.infix_append' [] _ _
      · exact (ih h).trans (List.suffix_append _ _).isInfix

end Text
