/-
Quoted text can be told from all that may come behind it.

A way of writing things delimits them if the text written for one is at
the front of no text written for another (`Delimits`). One reader that
gives back both the thing and what is behind it shows this
(`delimits_of_read`). Things that are delimited one by one are delimited
as a sequence too, up to a character that none of them starts with
(`flatMap_stop_inj`): the characters of a text up to its quote mark, and
later the items of a list up to its bracket.

The reader of single characters (`unescape?`) looks at the one behind a
backslash, which says what the escape is and how many digits it has; so
it needs to know neither the quote mark in use nor which characters have
a visible form.
-/
import PocketScheme.Text.Quoted
import PocketScheme.Proofs.Text.Classes

namespace PocketScheme.Text

-- ==================================================== delimited writing

/-- Whether the text written for a thing is at the front of no text that
starts with what is written for another one. -/
def Delimits {α : Type} (write : α → List Char) (a : α) : Prop :=
  ∀ b rest rest', write a ++ rest = write b ++ rest' → a = b ∧ rest = rest'

section Delimits

variable {α : Type} {write : α → List Char}

theorem Delimits.eq {a b : α} (h : Delimits write a) (hwrite : write a = write b) : a = b :=
  (h b [] [] (by rw [hwrite])).1

/-- What can be read back, with the rest left as it is, is delimited. -/
theorem delimits_of_read {read : List Char → Option (α × List Char)}
    (h : ∀ a rest, read (write a ++ rest) = some (a, rest)) (a : α) : Delimits write a := by
  intro b rest rest' heq
  have hread : some (a, rest) = some (b, rest') := by
    rw [← h a rest, heq, h b rest']
  exact Prod.mk.inj (Option.some.inj hread)

/-- Delimited things are delimited in sequence, up to a character that
none of them starts with. -/
theorem flatMap_stop_inj {stop : Char}
    (hstop : ∀ a rest rest', stop :: rest ≠ write a ++ rest') {xs ys : List α}
    {rest rest' : List Char} (hxs : ∀ x ∈ xs, Delimits write x)
    (h : xs.flatMap write ++ stop :: rest = ys.flatMap write ++ stop :: rest') :
    xs = ys ∧ rest = rest' := by
  induction xs generalizing ys with
  | nil =>
      cases ys with
      | nil => exact ⟨rfl, (List.cons.inj h).2⟩
      | cons y ys =>
          rw [List.flatMap_cons, List.append_assoc] at h
          exact absurd h (hstop y _ _)
  | cons x xs ih =>
      obtain ⟨hx, hxs⟩ := List.forall_mem_cons.1 hxs
      rw [List.flatMap_cons, List.append_assoc] at h
      cases ys with
      | nil => exact absurd h.symm (hstop x _ _)
      | cons y ys =>
          rw [List.flatMap_cons, List.append_assoc] at h
          obtain ⟨rfl, hmore⟩ := hx y _ _ h
          obtain ⟨rfl, hrest⟩ := ih hxs hmore
          exact ⟨rfl, hrest⟩

end Delimits

/-- Two texts are told apart by where they end if a character that is in
neither is behind both. -/
theorem append_stop_inj {stop : Char} {s t rest rest' : List Char} (hs : stop ∉ s) (ht : stop ∉ t)
    (h : s ++ stop :: rest = t ++ stop :: rest') : s = t ∧ rest = rest' := by
  have hfront (body rest : List Char) (hbody : stop ∉ body) :
      (body ++ stop :: rest).takeWhile (· != stop) = body :=
    takeWhile_of_stops (fun d hd => bne_iff_ne.2 (ne_of_mem_of_not_mem hd hbody)) (by simp)
  have hst : s = t := by
    rw [← hfront s rest hs, h, hfront t rest' ht]
  subst hst
  exact ⟨rfl, (List.cons.inj (List.append_cancel_left h)).2⟩

namespace Quoted

-- ========================================================== hexadecimal

/-- What a hexadecimal digit counts. -/
def digitValue (c : Char) : Nat :=
  if c.isDigit then c.toNat - '0'.toNat else c.toNat - 'a'.toNat + 10

/-- The number that hexadecimal digits stand for. -/
def hexValue (digits : List Char) : Nat :=
  digits.foldl (fun n c => 16 * n + digitValue c) 0

theorem digitValue_digitChar : ∀ d < 16, digitValue (Nat.digitChar d) = d := by
  decide

theorem hexValue_concat (digits : List Char) (c : Char) :
    hexValue (digits ++ [c]) = 16 * hexValue digits + digitValue c := by
  rw [hexValue, List.foldl_append]
  rfl

theorem hexValue_toDigits (n : Nat) : hexValue (Nat.toDigits 16 n) = n := by
  induction n using Nat.strongRecOn with
  | ind n ih =>
      rw [Nat.toDigits_eq_if (by decide)]
      split
      · next hlt =>
          show 16 * 0 + digitValue n.digitChar = n
          rw [digitValue_digitChar n hlt]
          omega
      · next hle =>
          have hdigit : n % 16 < 16 := Nat.mod_lt n (by decide)
          rw [hexValue_concat, ih (n / 16) (by omega), digitValue_digitChar _ hdigit]
          omega

theorem hexValue_zeros (count : Nat) (digits : List Char) :
    hexValue (List.replicate count '0' ++ digits) = hexValue digits := by
  induction count with
  | zero => rfl
  | succ count ih => exact ih

theorem hexValue_hex (width n : Nat) : hexValue (hex width n) = n := by
  rw [hex, List.leftpad, hexValue_zeros, hexValue_toDigits]

theorem length_hex {width n : Nat} (hwidth : 0 < width) (hn : n < Nat.pow 16 width) :
    (hex width n).length = width := by
  rw [hex, List.length_leftpad]
  exact Nat.max_eq_left ((Nat.length_toDigits_le_iff (by decide) hwidth).2 hn)

-- ============================================================== escapes

/-- The character of as many hexadecimal digits at the front of a text,
and what is behind them. -/
def readHex (width : Nat) (text : List Char) : Char × List Char :=
  (.ofNat (hexValue (text.take width)), text.drop width)

/-- The character that a backslash is in front of, and what is behind
it. -/
def escaped? : List Char → Option (Char × List Char)
  | 'x' :: rest => some (readHex 2 rest)
  | 'u' :: rest => some (readHex 4 rest)
  | 'U' :: rest => some (readHex 8 rest)
  | 'n' :: rest => some ('\n', rest)
  | 'r' :: rest => some ('\r', rest)
  | 't' :: rest => some ('\t', rest)
  | c :: rest => some (c, rest)
  | [] => none

/-- The first character that is written in a text between quote marks,
and what is behind it. -/
def unescape? : List Char → Option (Char × List Char)
  | c :: rest => if c = '\\' then escaped? rest else some (c, rest)
  | [] => none

theorem readHex_hex {width : Nat} {c : Char} (hwidth : 0 < width)
    (hc : c.toNat < Nat.pow 16 width) (rest : List Char) :
    readHex width (hex width c.toNat ++ rest) = (c, rest) := by
  have hlength := length_hex hwidth hc
  rw [readHex, List.take_left' hlength, List.drop_left' hlength, hexValue_hex, Char.ofNat_toNat]

theorem unescape?_codePoint (c : Char) (rest : List Char) :
    unescape? (codePoint c ++ rest) = some (c, rest) := by
  unfold codePoint
  by_cases htwo : c.toNat < 0x100
  · rw [if_pos htwo]
    exact congrArg some (readHex_hex (by decide) htwo rest)
  · rw [if_neg htwo]
    by_cases hfour : c.toNat < 0x10000
    · rw [if_pos hfour]
      exact congrArg some (readHex_hex (by decide) hfour rest)
    · have hcode : c.toNat < Nat.pow 16 8 := UInt32.toNat_lt c.val
      rw [if_neg hfour]
      exact congrArg some (readHex_hex (by decide) hcode rest)

/-- The escape of a character can be undone whatever comes behind it. -/
theorem unescape?_escape {mark : Char} (hmark : mark = '\'' ∨ mark = '"') (c : Char)
    (rest : List Char) : unescape? (escape mark c ++ rest) = some (c, rest) := by
  unfold escape
  split
  · next hc =>
      -- Neither the backslash nor a mark stands for something else behind one.
      rcases hc with rfl | rfl
      · rfl
      · rcases hmark with rfl | rfl <;> rfl
  · next hc =>
      split
      · next hnewline => exact hnewline ▸ rfl
      split
      · next hreturn => exact hreturn ▸ rfl
      split
      · next htab => exact htab ▸ rfl
      split
      · exact unescape?_codePoint c rest
      · exact if_neg fun hback => hc (.inl hback)

theorem codePoint_eq_cons (c : Char) : ∃ body, codePoint c = '\\' :: body := by
  dsimp only [codePoint]
  split
  · exact ⟨_, rfl⟩
  split
  · exact ⟨_, rfl⟩
  · exact ⟨_, rfl⟩

/-- A character is written behind a backslash or as it is, and the quote
mark in use is not written as it is. -/
theorem escape_cases (mark c : Char) :
    (∃ body, escape mark c = '\\' :: body) ∨ c ≠ mark ∧ escape mark c = [c] := by
  unfold escape
  split
  · exact .inl ⟨_, rfl⟩
  · next hc =>
      split
      · exact .inl ⟨_, rfl⟩
      split
      · exact .inl ⟨_, rfl⟩
      split
      · exact .inl ⟨_, rfl⟩
      split
      · exact .inl (codePoint_eq_cons c)
      · exact .inr ⟨fun hmark => hc (.inr hmark), rfl⟩

-- ========================================================== quoted texts

theorem mark_cases (text : List Char) : mark text = '\'' ∨ mark text = '"' := by
  unfold mark
  split
  · exact .inr rfl
  · exact .inl rfl

/-- No character is written with the quote mark in front. -/
theorem mark_ne_escape {mark : Char} (hmark : mark = '\'' ∨ mark = '"') (c : Char)
    (rest rest' : List Char) : mark :: rest ≠ escape mark c ++ rest' := by
  have hback : mark ≠ '\\' := by
    rcases hmark with rfl | rfl <;> decide
  intro h
  rcases escape_cases mark c with ⟨body, hbody⟩ | ⟨hne, hplain⟩
  · rw [hbody] at h
    exact hback (List.cons.inj h).1
  · rw [hplain] at h
    exact hne (List.cons.inj h).1.symm

/-- A quoted text tells the text and where it ends. -/
theorem delimits_encode (text : List Char) : Delimits encode text := by
  intro other rest rest' h
  have hsplit (t rest : List Char) :
      encode t ++ rest = mark t :: (t.flatMap (escape (mark t)) ++ mark t :: rest) := by
    simp [encode]
  rw [hsplit, hsplit] at h
  obtain ⟨hmark, h⟩ := List.cons.inj h
  rw [← hmark] at h
  have hcases := mark_cases text
  exact flatMap_stop_inj (mark_ne_escape hcases)
    (fun c _ => delimits_of_read (unescape?_escape hcases) c) h

end Quoted

end PocketScheme.Text
