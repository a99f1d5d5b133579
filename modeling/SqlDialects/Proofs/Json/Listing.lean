import SqlDialects.Proofs.Json.RoundTrip

/-!
# Listed strings are read back

An array of strings on several lines is ASCII and loses nothing.

**View.**  Apart from blanks at both ends the items of a listing are those of an array in a style of its
own (`Json.listed`), whose commas have a line end and two blanks behind them.

**Results.**
* `Json.ascii_listing`: whatever the strings hold, a listing is ASCII.
* `Json.read_listing`: it is read as the array of the strings, also with blanks behind it.
-/

namespace SqlDialects
namespace Json

/-! ## ASCII -/

/-- All characters are ASCII. -/
def Ascii (cs : List Char) : Prop :=
  ∀ c ∈ cs, c.toNat < 128

instance decidableAscii : DecidablePred Ascii :=
  -- The list is named: a search may pick the enumeration of all characters.
  fun cs => List.decidableBAll (fun c : Char => c.toNat < 128) cs

theorem Ascii.append
    {cs ds : List Char}
    (hcs : Ascii cs)
    (hds : Ascii ds) :
    Ascii (cs ++ ds) := by
  intro c hc
  exact (List.mem_append.mp hc).elim (hcs c) (hds c)

theorem ascii_hexDigits
    (count n : Nat) :
    Ascii (Text.hexDigits count n) := by
  have hdigit : ∀ m < 16, Ascii [Text.hexDigit m] := by decide
  induction count generalizing n with
  | zero =>
      simp [Ascii, Text.hexDigits]
  | succ count ih =>
      exact (ih (n / 16)).append (hdigit (n % 16) (Nat.mod_lt n (by omega)))

theorem ascii_unitEscape (n : Nat) :
    Ascii (unitEscape n) := by
  have hmark : Ascii ['\\', 'u'] := by decide
  exact hmark.append (ascii_hexDigits 4 n)

theorem ascii_charEscape (c : Char) :
    Ascii (charEscape true c) := by
  unfold charEscape
  -- the seven characters that have an escape of their own
  iterate 7
    split
    · decide
  split
  · exact ascii_unitEscape c.toNat
  split
  · unfold utf16Escape
    dsimp only
    split
    · exact ascii_unitEscape c.toNat
    · exact (ascii_unitEscape _).append (ascii_unitEscape _)
  · rename_i hcontrol hbeyond
    intro d hd
    rw [List.mem_singleton.mp hd]
    simp only [Bool.true_and, decide_eq_true_eq] at hbeyond
    omega

theorem ascii_stringChars (s : String) :
    Ascii (stringChars true s) := by
  have hquote : Ascii ['"'] := by decide
  have hinside : Ascii (s.toList.flatMap (charEscape true)) := by
    intro c hc
    obtain ⟨d, -, hd⟩ := List.mem_flatMap.mp hc
    exact ascii_charEscape d c hd
  exact (hquote.append hinside).append hquote

/-! ## Listings as arrays -/

/-- The style of the items of a listing. -/
def listed : Style :=
  ⟨true, [',', '\n', ' ', ' '], [':', ' ']⟩

theorem separates_listed : listed.Separates :=
  ⟨⟨['\n', ' ', ' '], rfl, by simp [isBlank]⟩, ⟨[' '], rfl, by simp [isBlank]⟩⟩

/-- What stands before every item and not after a comma before the first one. -/
theorem intercalate_map_append
    {α : Type}
    (sep front : List α)
    (l : List α)
    (ls : List (List α)) :
    sep.intercalate ((l :: ls).map (front ++ ·)) = front ++ (sep ++ front).intercalate (l :: ls) := by
  induction ls generalizing l with
  | nil =>
      simp
  | cons k ls ih =>
      have hls := ih k
      simp only [List.map_cons, List.intercalate_cons_cons] at hls ⊢
      rw [hls]
      simp only [List.append_assoc]

theorem listing_cons
    (s : String)
    (l : List String) :
    listing (s :: l) =
      '[' :: (['\n', ' ', ' '] ++
        (itemChars listed (.text s :: l.map Json.text) ++ ['\n', ']'])) := by
  have hitems := intercalate_map_append [',', '\n'] [' ', ' '] (stringChars true s)
    (l.map (stringChars true))
  have hmap : (s :: l).map (fun s => ' ' :: ' ' :: stringChars true s) =
      (stringChars true s :: l.map (stringChars true)).map ([' ', ' '] ++ ·) := by
    simp
  have hchars : (Json.text s :: l.map Json.text).map (chars listed) =
      stringChars true s :: l.map (stringChars true) := by
    simp [chars, listed]
  rw [listing, hmap, hitems, itemChars_eq_intercalate, hchars]
  · simp [listed]
  · exact List.cons_ne_nil s l

theorem ascii_itemChars
    {style : Style}
    (hcomma : Ascii style.comma)
    (hascii : style.ascii = true)
    (l : List String) :
    Ascii (itemChars style (l.map Json.text)) := by
  induction l with
  | nil =>
      simp [Ascii, itemChars]
  | cons s l ih =>
      have hs : Ascii (chars style (.text s)) := by
        rw [chars, hascii]
        exact ascii_stringChars s
      cases l with
      | nil =>
          exact hs
      | cons t l =>
          exact (hs.append hcomma).append ih

/-- A listing is ASCII, whatever the strings hold. -/
theorem ascii_listing (l : List String) :
    Ascii (listing l) := by
  cases l with
  | nil =>
      decide
  | cons s l =>
      have hopen : Ascii ['[', '\n', ' ', ' '] := by decide
      have hcomma : Ascii listed.comma := by decide
      have hclose : Ascii ['\n', ']'] := by decide
      rw [listing_cons]
      exact hopen.append ((ascii_itemChars hcomma rfl (s :: l)).append hclose)

/-! ## Reading -/

/-- An array with blanks inside both brackets. -/
theorem readValue_array_between
    {style : Style}
    (hstyle : style.Separates)
    {depth : Nat} {v : Json} {vs : List Json}
    (hexact : ∀ w ∈ v :: vs, ExactWithin depth w)
    {before after : List Char}
    (hbefore : ∀ b ∈ before, isBlank b = true)
    (hafter : ∀ b ∈ after, isBlank b = true)
    {fuel : Nat}
    (hfuel : 2 * (itemChars style (v :: vs)).length + 1 ≤ fuel)
    (place : Nat)
    (rest : List Char) :
    readValue (fuel + 1) (depth + 1) place
        ('[' :: (before ++ (itemChars style (v :: vs) ++ (after ++ ']' :: rest)))) =
      .ok ⟨.array (normalItems (v :: vs)),
        place + 1 + before.length + (itemChars style (v :: vs)).length + after.length + 1,
        rest⟩ := by
  have hback := fun w hw => readsBack_of_exactWithin hstyle (hexact w hw)
  have hitems := readItems_itemChars_append hstyle hexact hback hfuel (place + 1 + before.length)
    hafter rest
  obtain ⟨c, cs, hcs, hc⟩ := itemChars_starts (hexact v (by simp)) style vs
  have hopen := readValue_array_append fuel depth place hbefore hc (cs ++ (after ++ ']' :: rest))
  have hstart : c :: (cs ++ (after ++ ']' :: rest)) =
      itemChars style (v :: vs) ++ (after ++ ']' :: rest) := by
    rw [hcs, List.cons_append]
  rw [hstart, hitems] at hopen
  rw [hopen, Except.map]

/-- Where a listing stands, the reader takes the array of its strings and leaves what follows. -/
theorem readValue_listing
    (l : List String)
    {fuel : Nat}
    (hfuel : 2 * (listing l).length ≤ fuel)
    (depth place : Nat)
    (rest : List Char) :
    readValue fuel (depth + 1) place (listing l ++ rest) =
      .ok ⟨.array (l.map Json.text), place + (listing l).length, rest⟩ := by
  cases l with
  | nil =>
      obtain ⟨fuel, rfl⟩ : ∃ f, fuel = f + 1 := ⟨fuel - 1, by simp [listing] at hfuel; omega⟩
      exact readValue_array_nil fuel depth place rest
  | cons s l =>
      have hexact : ∀ v ∈ Json.text s :: l.map Json.text, ExactWithin depth v := by
        intro v hv
        obtain ⟨t, -, rfl⟩ := List.mem_map.mp (show v ∈ (s :: l).map Json.text from hv)
        exact .text depth t
      have hnormal : normalItems (Json.text s :: l.map Json.text) = (s :: l).map Json.text := by
        rw [normalItems_eq_map]
        simp [normal, Function.comp_def]
      rw [listing_cons] at hfuel ⊢
      simp only [List.length_append, List.length_cons, List.length_nil] at hfuel
      obtain ⟨fuel, rfl⟩ : ∃ f, fuel = f + 1 := ⟨fuel - 1, by omega⟩
      have hbefore : ∀ b ∈ ['\n', ' ', ' '], isBlank b = true := by simp [isBlank]
      have hafter : ∀ b ∈ ['\n'], isBlank b = true := by simp [isBlank]
      have hlength : 2 * (itemChars listed (Json.text s :: l.map Json.text)).length + 1 ≤ fuel := by
        omega
      have harray := readValue_array_between separates_listed hexact hbefore hafter hlength place rest
      rw [hnormal] at harray
      simp only [List.cons_append, List.append_assoc, List.nil_append, List.length_append,
        List.length_cons, List.length_nil] at harray ⊢
      rw [harray]
      congr 2
      omega

/-- A listing is read as the array of its strings, also with blanks behind it. -/
theorem read_listing
    (l : List String)
    {blanks : List Char}
    (hblanks : ∀ b ∈ blanks, isBlank b = true) :
    read (String.ofList (listing l ++ blanks)) = .ok (.array (l.map Json.text)) := by
  have hfuel : 2 * (listing l).length ≤ 2 * (listing l ++ blanks).length + 2 := by
    rw [List.length_append]
    omega
  have hvalue := readValue_listing l hfuel (nestingLimit - 1) 0 blanks
  obtain ⟨cs, hcs⟩ : ∃ cs, listing l = '[' :: cs := by
    cases l with
    | nil => exact ⟨_, rfl⟩
    | cons s l => exact ⟨_, listing_cons s l⟩
  rw [hcs, List.cons_append] at hvalue ⊢
  rw [read, String.toList_ofList, readChars]
  · rw [skipBlanks_cons 0 (by decide)]
    change readValue _ nestingLimit 0 _ = _ at hvalue
    simp only [hvalue, skipBlanks_blanks _ hblanks]
  · intro rest heq
    cases heq

end Json
end SqlDialects
