import Abnf.Proofs.Tokens

/-!
# Where a piece of text ends

A text can be cut in one way only where every piece ends by a character that cannot belong to it:
runs of characters of a class (`run_inj`), numerals (`Base.digits_inj`), pieces with separators in
between (`Separates.inj`).  With these cuts, the codes of a text, the bounds of a range and the
bounds of a repetition can be told from what is written for them.
-/

namespace Abnf

/-- Whatever follows does not go on with a character of the class. -/
def Stops (p : Char → Bool) (rest : List Char) : Prop := ∀ c ∈ rest.head?, p c = false

lemma stops_cons {p : Char → Bool} {c : Char} {rest : List Char} :
    Stops p (c :: rest) ↔ p c = false := by
  simp [Stops]

lemma Stops.mono {p q : Char → Bool} (h : ∀ c, q c = true → p c = true) {rest : List Char}
    (hp : Stops p rest) : Stops q rest := by
  intro c hc
  have hfalse := hp c hc
  by_contra htrue
  rw [h c (by simpa using htrue)] at hfalse
  exact Bool.noConfusion hfalse

lemma takeWhile_run {p : Char → Bool} {run rest : List Char} (hrun : ∀ c ∈ run, p c = true)
    (hrest : Stops p rest) : (run ++ rest).takeWhile p = run := by
  rw [List.takeWhile_append_of_pos hrun]
  cases rest with
  | nil => simp
  | cons c rest =>
    have hc := stops_cons.1 hrest
    rw [List.takeWhile_cons_of_neg (by simp [hc]), List.append_nil]

lemma dropWhile_run {p : Char → Bool} {run rest : List Char} (hrun : ∀ c ∈ run, p c = true)
    (hrest : Stops p rest) : (run ++ rest).dropWhile p = rest := by
  have hsplit := List.takeWhile_append_dropWhile (p := p) (l := run ++ rest)
  rw [takeWhile_run hrun hrest] at hsplit
  exact List.append_cancel_left hsplit

lemma dropPrefix?_append (start rest : List Char) : (start ++ rest).dropPrefix? start = some rest :=
  List.dropPrefix?_eq_some_iff.2 ⟨start, rfl, by simp⟩

/-- A run of characters of a class ends where the class does. -/
lemma run_inj {p : Char → Bool} {x y r s : List Char} (hx : ∀ c ∈ x, p c = true)
    (hy : ∀ c ∈ y, p c = true) (hr : Stops p r) (hs : Stops p s) (h : x ++ r = y ++ s) :
    x = y ∧ r = s := by
  have hxy : x = y := by rw [← takeWhile_run hx hr, ← takeWhile_run hy hs, h]
  subst hxy
  exact ⟨rfl, List.append_cancel_left h⟩

/-! ## Pieces with separators in between -/

/-- What is written with a separator in between: the separator may follow a piece (`Inner`), and
where everything ends (`Outer`), no separator with another piece can begin. -/
structure Separates {α : Type} (separator : List Char) (write : α → List Char) (Good : α → Prop)
    (Inner Outer : List Char → Prop) : Prop where
  /-- What may follow all pieces may follow one. -/
  last {r : List Char} : Outer r → Inner r
  /-- The separator may follow a piece. -/
  next (r : List Char) : Inner (separator ++ r)
  /-- The separator and a piece may not follow all pieces. -/
  stop {x : α} (r : List Char) : Good x → ¬ Outer (separator ++ (write x ++ r))

namespace Separates

variable {α β : Type} {separator : List Char} {write : α → List Char} {Good : α → Prop}
  {Inner Outer : List Char → Prop} {key : α → β}

lemma flatMap_eq_intercalate {xs : List α} (h : xs ≠ []) :
    xs.flatMap (fun x => separator ++ write x) =
      separator ++ separator.intercalate (xs.map write) := by
  induction xs with
  | nil => exact absurd rfl h
  | cons x xs ih =>
    cases xs with
    | nil => simp
    | cons next others =>
      rw [List.flatMap_cons, ih (by simp)]
      simp [List.intercalate_cons_cons]

lemma inner_flatMap (h : Separates separator write Good Inner Outer) (xs : List α) {r : List Char}
    (hr : Outer r) : Inner (xs.flatMap (fun x => separator ++ write x) ++ r) := by
  cases xs with
  | nil => exact h.last hr
  | cons x xs =>
    rw [List.flatMap_cons, List.append_assoc, List.append_assoc]
    exact h.next _

/-- If single pieces can be cut off, so can any number of them with their separators in front. -/
lemma flatMap_inj (h : Separates separator write Good Inner Outer) {xs ys : List α}
    (hcut : ∀ x ∈ xs, ∀ y ∈ ys, ∀ {r s}, Inner r → Inner s → write x ++ r = write y ++ s →
      key x = key y ∧ r = s)
    (hxs : ∀ x ∈ xs, Good x) (hys : ∀ y ∈ ys, Good y) {r s : List Char} (hr : Outer r)
    (hs : Outer s) (heq : xs.flatMap (fun x => separator ++ write x) ++ r =
      ys.flatMap (fun y => separator ++ write y) ++ s) :
    xs.map key = ys.map key ∧ r = s := by
  induction xs generalizing ys with
  | nil =>
    cases ys with
    | nil => exact ⟨rfl, heq⟩
    | cons y ys =>
      -- Where only one side has a piece left, its separator would follow the whole other side.
      simp only [List.flatMap_nil, List.nil_append, List.flatMap_cons, List.append_assoc] at heq
      exact absurd (heq ▸ hr) (h.stop _ (hys y (by simp)))
  | cons x xs ih =>
    cases ys with
    | nil =>
      simp only [List.flatMap_nil, List.nil_append, List.flatMap_cons, List.append_assoc] at heq
      exact absurd (heq ▸ hs) (h.stop _ (hxs x (by simp)))
    | cons y ys =>
      simp only [List.flatMap_cons, List.append_assoc] at heq
      have hpiece := List.append_cancel_left heq
      obtain ⟨hkey, hrest⟩ := hcut x (by simp) y (by simp) (h.inner_flatMap xs hr)
        (h.inner_flatMap ys hs) hpiece
      obtain ⟨hkeys, hend⟩ := ih (fun x hx y hy => hcut x (by simp [hx]) y (by simp [hy]))
        (fun x hx => hxs x (by simp [hx])) (fun y hy => hys y (by simp [hy])) hrest
      rw [List.map_cons, List.map_cons, hkey, hkeys]
      exact ⟨rfl, hend⟩

/-- If single pieces can be cut off, so can any number of them with separators in between. -/
theorem inj (h : Separates separator write Good Inner Outer) {xs ys : List α}
    (hcut : ∀ x ∈ xs, ∀ y ∈ ys, ∀ {r s}, Inner r → Inner s → write x ++ r = write y ++ s →
      key x = key y ∧ r = s)
    (hxs : ∀ x ∈ xs, Good x) (hys : ∀ y ∈ ys, Good y) (hxnil : xs ≠ []) (hynil : ys ≠ [])
    {r s : List Char} (hr : Outer r) (hs : Outer s)
    (heq : separator.intercalate (xs.map write) ++ r = separator.intercalate (ys.map write) ++ s) :
    xs.map key = ys.map key ∧ r = s := by
  refine h.flatMap_inj hcut hxs hys hr hs ?_
  rw [flatMap_eq_intercalate hxnil, flatMap_eq_intercalate hynil, List.append_assoc,
    List.append_assoc, heq]

end Separates

/-! ## Codes -/

namespace Base

/-- Whether a character is a digit of some base. -/
def isDigit (c : Char) : Bool := (hexadecimal.digit? c).isSome

/-- Whether a character may stand in the codes of a text or of a range. -/
def isCode (c : Char) : Bool := isDigit c || c == '.' || c == '-'

lemma isDigit_of_mem (b : Base) {c : Char} {n : Nat} (h : c ∈ Nat.toDigits b.radix n) :
    isDigit c = true :=
  isSome_hexadecimal (b.isSome_digit?_of_mem h)

lemma stops_isDigit {rest : List Char} (h : Stops isCode rest) : Stops isDigit rest :=
  h.mono fun c hc => by simp [isCode, hc]

/-- A numeral ends where the digits end. -/
lemma digits_inj (b : Base) {m n : Nat} {r s : List Char} (hr : Stops isDigit r)
    (hs : Stops isDigit s) (h : Nat.toDigits b.radix m ++ r = Nat.toDigits b.radix n ++ s) :
    m = n ∧ r = s := by
  obtain ⟨hdigits, hrest⟩ := run_inj (fun _ hc => b.isDigit_of_mem hc)
    (fun _ hc => b.isDigit_of_mem hc) hr hs h
  exact ⟨b.toDigits_injective hdigits, hrest⟩

/-- What is written for a text by its codes. -/
def codes (b : Base) (text : String) : List Char :=
  ['.'].intercalate (text.toList.map fun c => Nat.toDigits b.radix c.toNat)

/-- What is written for a range. -/
def bounds (b : Base) (first last : UInt32) : List Char :=
  Nat.toDigits b.radix first.toNat ++ '-' :: Nat.toDigits b.radix last.toNat

lemma toList_encodeText (b : Base) {text : String} (h : text ≠ "") :
    ((b.encodeText text).getD "").toList = '%' :: b.letter :: b.codes text := by
  have hempty : text.isEmpty = false := by simpa [String.isEmpty_iff] using h
  simp [encodeText, hempty, announce, numeral, codes, String.toList_intercalate,
    Function.comp_def]

lemma toList_encodeRange (b : Base) (first last : UInt32) :
    (b.encodeRange first last).toList = '%' :: b.letter :: b.bounds first last := by
  simp [encodeRange, announce, numeral, bounds]

lemma separates_codes (b : Base) :
    Separates ['.'] (fun c : Char => Nat.toDigits b.radix c.toNat) (fun _ => True)
      (Stops isDigit) (Stops isCode) where
  last h := stops_isDigit h
  next r := stops_cons.2 (by decide)
  stop r _ h := absurd (stops_cons.1 h) (by decide)

/-- Different texts have different codes. -/
lemma codes_inj (b : Base) {text other : String} (ht : text ≠ "") (ho : other ≠ "")
    {r s : List Char} (hr : Stops isCode r) (hs : Stops isCode s)
    (h : b.codes text ++ r = b.codes other ++ s) : text = other ∧ r = s := by
  have hcut : ∀ x ∈ text.toList, ∀ y ∈ other.toList, ∀ {r s}, Stops isDigit r →
      Stops isDigit s → Nat.toDigits b.radix x.toNat ++ r = Nat.toDigits b.radix y.toNat ++ s →
      id x = id y ∧ r = s := by
    intro x _ y _ r s hr hs heq
    obtain ⟨hcode, hrest⟩ := b.digits_inj hr hs heq
    exact ⟨Char.toNat_inj.1 hcode, hrest⟩
  obtain ⟨hkeys, hrest⟩ := b.separates_codes.inj hcut (by simp) (by simp) (by simpa using ht)
    (by simpa using ho) hr hs h
  rw [List.map_id, List.map_id, String.toList_inj] at hkeys
  exact ⟨hkeys, hrest⟩

/-- Different ranges have different codes. -/
lemma bounds_inj (b : Base) {first last first' last' : UInt32} {r s : List Char}
    (hr : Stops isCode r) (hs : Stops isCode s)
    (h : b.bounds first last ++ r = b.bounds first' last' ++ s) :
    first = first' ∧ last = last' ∧ r = s := by
  have hhyphen : ∀ rest, Stops isDigit ('-' :: rest) := fun rest => stops_cons.2 (by decide)
  simp only [bounds, List.append_assoc, List.cons_append] at h
  obtain ⟨hfirst, hrest⟩ := b.digits_inj (hhyphen _) (hhyphen _) h
  obtain ⟨hlast, hend⟩ := b.digits_inj (stops_isDigit hr) (stops_isDigit hs)
    (List.cons.inj hrest).2
  exact ⟨UInt32.toNat_inj.1 hfirst, UInt32.toNat_inj.1 hlast, hend⟩

/-- The codes of a text are not those of a range. -/
lemma codes_ne_bounds (b : Base) {text : String} (ht : text ≠ "") {first last : UInt32}
    {r s : List Char} (hr : Stops isCode r) : b.codes text ++ r ≠ b.bounds first last ++ s := by
  intro h
  have hhyphen : ∀ rest, Stops isDigit ('-' :: rest) := fun rest => stops_cons.2 (by decide)
  rw [codes, bounds, List.append_assoc] at h
  cases htext : text.toList with
  | nil => exact ht (String.toList_eq_nil_iff.1 htext)
  | cons c cs =>
    rw [htext, List.map_cons] at h
    cases cs with
    | nil =>
      rw [List.map_nil, List.intercalate_singleton] at h
      obtain ⟨-, hrest⟩ := b.digits_inj (stops_isDigit hr) (hhyphen _) h
      rw [hrest] at hr
      exact absurd (stops_cons.1 hr) (by decide)
    | cons d ds =>
      -- The point behind the first numeral stands where the range has its hyphen.
      have hpoint : ∀ rest, Stops isDigit ('.' :: rest) := fun rest => stops_cons.2 (by decide)
      rw [List.map_cons, List.intercalate_cons_cons, List.append_assoc, List.append_assoc] at h
      obtain ⟨-, hrest⟩ := b.digits_inj (hpoint _) (hhyphen _) h
      exact absurd (List.cons.inj hrest).1 (by decide)

end Base

/-! ## Bounds in front of an element -/

namespace Repeat

/-- Whether a character may stand in the bounds in front of an element. -/
def isStar (c : Char) : Bool := (Base.decimal.digit? c).isSome || c == '*'

lemma isStar_of_mem {r : Repeat} {c : Char} (h : c ∈ r.star.toList) : isStar c = true := by
  rcases r.mem_star h with rfl | hdigit
  · decide
  · simp [isStar, hdigit]

lemma star_ne_nil (r : Repeat) : r.star.toList ≠ [] := by
  rw [star]
  split <;> simp

/-- The digits of a number, if there is one. -/
def digits? (n : Option UInt32) : List Char :=
  (n.map fun n => Nat.toDigits Base.decimal.radix n.toNat).getD []

lemma isSome_of_mem_digits? {n : Option UInt32} {c : Char} (h : c ∈ digits? n) :
    (Base.decimal.digit? c).isSome = true := by
  cases n with
  | none => simp [digits?] at h
  | some n => exact Base.decimal.isSome_digit?_of_mem h

lemma digits?_inj {m n : Option UInt32} (h : digits? m = digits? n) : m = n := by
  cases m with
  | none =>
    cases n with
    | none => rfl
    | some n => exact absurd h.symm Nat.toDigits_ne_nil
  | some m =>
    cases n with
    | none => exact absurd h Nat.toDigits_ne_nil
    | some n => rw [UInt32.toNat_inj.1 (Base.decimal.toDigits_injective h)]

/-- The least number as it is written in front of the star, where zero is left out. -/
def least? (r : Repeat) : Option UInt32 := if r.min = 0 then none else some r.min

lemma min_eq_of_least? {r r' : Repeat} (h : r.least? = r'.least?) : r.min = r'.min := by
  unfold least? at h
  split at h
  · next hzero =>
    split at h
    · next hzero' => rw [hzero, hzero']
    · exact absurd h (by simp)
  · split at h
    · exact absurd h (by simp)
    · exact Option.some.inj h

/-- The bounds that are written, with a star in between unless they are the same. -/
lemma toList_star (r : Repeat) : r.star.toList =
    if r.isExact then digits? (some r.min) else digits? r.least? ++ '*' :: digits? r.max := by
  obtain ⟨min, max⟩ := r
  rw [star]
  split
  · simp [digits?, Base.radix]
  · by_cases hmin : min = 0 <;> cases max <;> simp [hmin, least?, digits?, Base.radix]

lemma digits?_ne_star {digits rest : List Char} {n : Option UInt32} :
    digits? n ≠ digits ++ '*' :: rest := by
  intro heq
  have hmem : '*' ∈ digits? n := by simp [heq]
  exact absurd (isSome_of_mem_digits? hmem) (by decide)

/-- Different bounds are written differently. -/
lemma star_inj {r r' : Repeat} (h : r.star.toList = r'.star.toList) : r = r' := by
  suffices hboth : r.min = r'.min ∧ r.max = r'.max by
    cases r
    cases r'
    simpa using hboth
  rw [toList_star, toList_star] at h
  by_cases hexact : r.isExact = true
  · have hmax : r.max = some r.min := by simpa [isExact] using hexact
    rw [if_pos hexact] at h
    by_cases hexact' : r'.isExact = true
    · have hmax' : r'.max = some r'.min := by simpa [isExact] using hexact'
      rw [if_pos hexact'] at h
      have hmin : r.min = r'.min := Option.some.inj (digits?_inj h)
      exact ⟨hmin, by rw [hmax, hmax', hmin]⟩
    · rw [if_neg hexact'] at h
      exact absurd h digits?_ne_star
  · rw [if_neg hexact] at h
    by_cases hexact' : r'.isExact = true
    · rw [if_pos hexact'] at h
      exact absurd h.symm digits?_ne_star
    · rw [if_neg hexact'] at h
      have hstop : ∀ rest, Stops (fun c => (Base.decimal.digit? c).isSome) ('*' :: rest) :=
        fun rest => stops_cons.2 (by decide)
      obtain ⟨hleast, hmost⟩ := run_inj (fun _ hc => isSome_of_mem_digits? hc)
        (fun _ hc => isSome_of_mem_digits? hc) (hstop _) (hstop _) h
      exact ⟨min_eq_of_least? (digits?_inj hleast), digits?_inj (List.cons.inj hmost).2⟩

end Repeat

end Abnf
