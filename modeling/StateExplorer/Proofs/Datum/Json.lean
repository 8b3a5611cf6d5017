import Mathlib.Data.List.TakeWhile
import StateExplorer.Datum.Json
import StateExplorer.Proofs.Datum.Basic
import StateExplorer.Proofs.Text.Decimal

/-!
# JSON is read as it was written

The two passes of the reader are followed side by side. `Leads` says of a piece of text which tokens
it makes and where these take the assembly, whatever text comes after it; a piece that ends in a
word must be followed by something that does not go on with the word. Pieces are put together to
lists and records, so every tree of natural numbers and whole texts is read as it was written.
-/

namespace StateExplorer

namespace Json

/-! ### Scanning -/

/-- The tokens of a text that is scanned to its end. -/
def scanFrom : Mode → List Char → Option (List Token)
  | mode, [] => finish mode
  | mode, c :: rest => do
    let (tokens, next) ← feed mode c
    return tokens ++ (← scanFrom next rest)

/-- One character is scanned before the others. -/
theorem scanFrom_cons {mode next : Mode} {c : Char} {tokens : List Token}
    (h : feed mode c = some (tokens, next)) (rest : List Char) :
    scanFrom mode (c :: rest) = (scanFrom next rest).map (tokens ++ ·) := by
  simp only [scanFrom, h, Option.bind_eq_bind, Option.bind_some, Option.map_eq_bind]
  rfl

/-- A document is scanned from its first character on. -/
theorem scan_eq (document : List Char) : scan document = scanFrom .gap document := by
  have hfold (text : List Char) : ∀ mode (done : List Token),
      (text.foldlM (fun (s : Mode × List Token) c => do
          let (tokens, next) ← feed s.1 c
          return (next, tokens.reverse ++ s.2)) (mode, done) >>= fun s =>
        (finish s.1).map (s.2.reverse ++ ·)) = (scanFrom mode text).map (done.reverse ++ ·) := by
    induction text with
    | nil => exact fun mode done => rfl
    | cons c rest ih =>
      intro mode done
      rw [List.foldlM_cons]
      cases hfeed : feed mode c with
      | none => simp [scanFrom, hfeed]
      | some step =>
        obtain ⟨tokens, next⟩ := step
        rw [scanFrom_cons hfeed]
        refine (ih next (tokens.reverse ++ done)).trans ?_
        simp [Function.comp_def]
  have hall := hfold document .gap []
  simp only [List.reverse_nil, List.nil_append] at hall
  rw [scan, ← (Option.map_id' : (scanFrom .gap document).map (fun t => t) = _), ← hall]
  simp only [Option.map_eq_bind]
  rfl

/-- Whether no word goes on into a text. -/
def Delimited (rest : List Char) : Prop :=
  ∀ c ∈ rest.head?, isBare c = false

/-- The end of a document delimits a word. -/
theorem delimited_nil : Delimited [] := by
  simp [Delimited]

/-- A character that is in no word delimits one. -/
theorem delimited_cons {c : Char} (h : isBare c = false) (rest : List Char) :
    Delimited (c :: rest) := by
  simpa [Delimited] using h

/-- A character of a word begins one. -/
theorem begin_of_isBare {c : Char} (h : isBare c = true) : begin c = some ([], .bare [c]) := by
  rw [begin, if_pos h]
  all_goals
    rintro rfl
    exact absurd h (by decide)

/-- The characters of a word are remembered. -/
theorem scanFrom_bare {word : List Char} (h : ∀ c ∈ word, isBare c = true) (before rest : List Char) :
    scanFrom (.bare before) (word ++ rest) = scanFrom (.bare (word.reverse ++ before)) rest := by
  induction word generalizing before with
  | nil => rfl
  | cons c word ih =>
    obtain ⟨hfirst, hword⟩ := List.forall_mem_cons.1 h
    have hfeed : feed (.bare before) c = some ([], .bare (c :: before)) := if_pos hfirst
    rw [List.cons_append, scanFrom_cons hfeed, ih hword]
    simp

/-- A word that has a value makes one token where no word goes on. -/
theorem scanFrom_word {word : List Char} (hne : word ≠ []) (h : ∀ c ∈ word, isBare c = true)
    {value : Datum} (hvalue : atom? word = some value) {rest : List Char} (hrest : Delimited rest) :
    scanFrom .gap (word ++ rest) = (scanFrom .gap rest).map ([.atom value] ++ ·) := by
  obtain ⟨c, more, rfl⟩ := List.exists_cons_of_ne_nil hne
  obtain ⟨hfirst, hmore⟩ := List.forall_mem_cons.1 h
  have hfeed : feed .gap c = some ([], .bare [c]) := begin_of_isBare hfirst
  have hreverse : (more.reverse ++ [c]).reverse = c :: more := by simp
  rw [List.cons_append, scanFrom_cons hfeed, scanFrom_bare hmore]
  simp only [List.nil_append, Option.map_id']
  cases rest with
  | nil => simp [scanFrom, finish, hreverse, hvalue]
  | cons d rest =>
    have hdelimiter : isBare d = false := hrest d rfl
    simp only [scanFrom, feed, hdelimiter, hreverse, hvalue]
    cases hbegin : begin d with
    | none => simp
    | some step =>
      obtain ⟨tokens, next⟩ := step
      cases hnext : scanFrom next rest <;> simp [hnext]

/-! ### Texts -/

/-- The halves of pairs are no characters. -/
theorem not_half (c : Char) : isHighHalf c.toNat = false ∧ isLowHalf c.toNat = false := by
  have hvalid : c.toNat < 0xD800 ∨ 0xDFFF < c.toNat ∧ c.toNat < 0x110000 := c.valid
  simp only [isHighHalf, isLowHalf, Bool.and_eq_false_iff, decide_eq_false_iff_not]
  omega

/-- The units of characters are joined to these characters. -/
theorem joinUnits_map_toNat (chars : List Char) : joinUnits (chars.map Char.toNat) = some chars := by
  induction chars with
  | nil => rfl
  | cons c rest ih =>
    obtain ⟨hhigh, hlow⟩ := not_half c
    cases rest with
    | nil => simp [joinUnits, hhigh, hlow, Char.ofNat_toNat]
    | cons d rest =>
      rw [List.map_cons] at ih
      rw [List.map_cons, List.map_cons, joinUnits, if_neg (by simp [hhigh]), if_neg (by simp [hlow]),
        ih, Option.map_some, Char.ofNat_toNat]

/-- A control character is written with the two digits of its number. -/
theorem scanFrom_hex {n : Nat} (h : n < 0x20) (units : List Nat) (rest : List Char) :
    scanFrom (.text units)
      ('\\' :: 'u' :: '0' :: '0' :: Nat.digitChar (n / 16) :: Nat.digitChar (n % 16) :: rest) =
      scanFrom (.text (n :: units)) rest := by
  have hdigit : ∀ d < 16, hexValue? (Nat.digitChar d) = some d := by decide
  have hzero : hexValue? '0' = some 0 := by decide
  have hhigh := hdigit (n / 16) (by omega)
  have hlow := hdigit (n % 16) (by omega)
  have hvalue : n / 16 * 16 + n % 16 = n := by omega
  simp [scanFrom, feed, hzero, hhigh, hlow, hvalue]

/-- A character inside a text is read as it was written. -/
theorem scanFrom_escape (c : Char) (units : List Nat) (rest : List Char) :
    scanFrom (.text units) (escape c ++ rest) = scanFrom (.text (c.toNat :: units)) rest := by
  unfold escape
  split
  case h_8 hquote hbackslash _ _ _ _ _ =>
    split
    · exact scanFrom_hex ‹_› units rest
    · have hfeed : feed (.text units) c = some ([], .text (c.toNat :: units)) := by
        rw [feed, if_neg hquote, if_neg hbackslash, if_neg ‹_›]
      rw [List.singleton_append, scanFrom_cons hfeed]
      simp
  all_goals simp [scanFrom, feed, escapeUnit?]

/-- A text is read as it was written. -/
theorem scanFrom_text (s : String) (rest : List Char) :
    scanFrom .gap (writeText s ++ rest) =
      (scanFrom .gap rest).map ([.text (some s)] ++ ·) := by
  have hchars (chars : List Char) : ∀ before : List Char,
      scanFrom (.text (before.map Char.toNat).reverse) (chars.flatMap escape ++ '"' :: rest) =
        (scanFrom .gap rest).map ([.text (some (String.ofList (before ++ chars)))] ++ ·) := by
    induction chars with
    | nil =>
      intro before
      refine scanFrom_cons ?_ rest
      simp [feed, joinUnits_map_toNat]
    | cons c chars ih =>
      intro before
      rw [List.flatMap_cons, List.append_assoc, scanFrom_escape]
      have hnext := ih (before ++ [c])
      simpa using hnext
  have hquote : feed .gap '"' = some ([], .text []) := rfl
  rw [writeText, List.cons_append, List.cons_append, scanFrom_cons hquote]
  simpa using hchars s.toList []

/-! ### Words -/

/-- A number is written as a word. -/
theorem isBare_of_mem_decimal {n : Nat} {c : Char} (h : c ∈ Text.decimal n) : isBare c = true := by
  simp [isBare, Char.isAlphanum, Text.isDigit_of_mem_decimal h]

/-- A natural number is a number. -/
theorem isNumber_decimal (n : Nat) : isNumber (Text.decimal n) = true := by
  by_cases hn : n = 0
  · subst hn
    decide
  · obtain ⟨d, rest, hdecimal⟩ := List.exists_cons_of_ne_nil (Text.decimal_ne_nil n)
    have hdigits : ∀ c ∈ d :: rest, c.isDigit = true := fun c hc =>
      Text.isDigit_of_mem_decimal (hdecimal ▸ hc)
    obtain ⟨hfirst, hrest⟩ := List.forall_mem_cons.1 hdigits
    have hzero : d ≠ '0' := by simpa [hdecimal] using Text.head?_decimal_ne hn
    have hminus : d ≠ '-' := by
      rintro rfl
      cases hfirst
    have hdropped : rest.dropWhile Char.isDigit = [] := List.dropWhile_eq_nil_iff.2 hrest
    rw [hdecimal]
    simp [isNumber, hminus, hfirst, hdropped, isFraction, isExponent]

/-- A number in decimal has that number as its value. -/
theorem atom?_decimal (n : Nat) : atom? (Text.decimal n) = some (.ofNat n) := by
  have hother {word : String} (hletter : ∃ c ∈ word.toList, c.isDigit = false) :
      String.ofList (Text.decimal n) ≠ word := by
    rintro rfl
    obtain ⟨c, hc, hnot⟩ := hletter
    rw [String.toList_ofList] at hc
    exact Text.not_mem_decimal hnot n hc
  have htext : String.ofList (Text.decimal n) = toString n := by
    rw [← Text.toList_toString, String.ofList_toList]
  rw [atom?, if_neg (hother ⟨'n', by decide, by decide⟩), if_neg (hother ⟨'t', by decide, by decide⟩),
    if_neg (hother ⟨'f', by decide, by decide⟩), if_pos (isNumber_decimal n), htext]
  rfl

/-! ### Assembling -/

/-- Whether a text, scanned between two tokens, takes the assembly from one point to another, where
no word goes on after it. -/
def Leads (text : List Char) (start stop : List Frame × Expected) : Prop :=
  ∃ tokens, (∀ rest, Delimited rest →
      scanFrom .gap (text ++ rest) = (scanFrom .gap rest).map (tokens ++ ·)) ∧
    tokens.foldlM (fun (s : List Frame × Expected) token => accept s.1 s.2 token) start = some stop

variable {piece more : List Char} {start middle stop : List Frame × Expected} {stack : List Frame}

/-- No text leads nowhere. -/
theorem leads_nil (start : List Frame × Expected) : Leads [] start start :=
  ⟨[], fun rest _ => by simp, rfl⟩

/-- Texts lead one after the other, where the second one cannot go on with a word of the first. -/
theorem Leads.append (h : Leads piece start middle) (hmore : Leads more middle stop)
    (hdelimited : ∀ rest, Delimited (more ++ rest)) : Leads (piece ++ more) start stop := by
  obtain ⟨tokens, hscan, hfold⟩ := h
  obtain ⟨others, hscan', hfold'⟩ := hmore
  refine ⟨tokens ++ others, fun rest hrest => ?_, ?_⟩
  · rw [List.append_assoc, hscan _ (hdelimited rest), hscan' rest hrest]
    simp [Function.comp_def]
  · rw [List.foldlM_append, hfold]
    exact hfold'

/-- A mark leads on with its token, whatever comes after it. -/
theorem Leads.cons {c : Char} {token : Token} (hbegin : begin c = some ([token], .gap))
    (haccept : accept start.1 start.2 token = some middle) (h : Leads more middle stop) :
    Leads (c :: more) start stop := by
  obtain ⟨tokens, hscan, hfold⟩ := h
  have hfeed : feed .gap c = some ([token], .gap) := hbegin
  refine ⟨token :: tokens, fun rest hrest => ?_, ?_⟩
  · rw [List.cons_append, scanFrom_cons hfeed, hscan rest hrest]
    simp [Function.comp_def]
  · rw [List.foldlM_cons, haccept]
    exact hfold

/-- A blank between tokens is passed over. -/
theorem Leads.blank {c : Char} (hbegin : begin c = some ([], .gap)) (h : Leads more start stop) :
    Leads (c :: more) start stop := by
  obtain ⟨tokens, hscan, hfold⟩ := h
  have hfeed : feed .gap c = some ([], .gap) := hbegin
  refine ⟨tokens, fun rest hrest => ?_, hfold⟩
  rw [List.cons_append, scanFrom_cons hfeed, hscan rest hrest]
  simp [Function.comp_def]

/-- A new line is passed over. -/
theorem Leads.newLine (depth : Nat) (h : Leads more start stop) :
    Leads (newLine depth ++ more) start stop := by
  have hblanks (count : Nat) : Leads (List.replicate count ' ' ++ more) start stop := by
    induction count with
    | zero => exact h
    | succ count ih => exact .blank rfl ih
  exact .blank rfl (hblanks (2 * depth))

/-- A text leads on with its token. -/
theorem Leads.text (s : String)
    (haccept : accept start.1 start.2 (.text (some s)) = some middle)
    (h : Leads more middle stop) : Leads (writeText s ++ more) start stop := by
  obtain ⟨tokens, hscan, hfold⟩ := h
  refine ⟨.text (some s) :: tokens, fun rest hrest => ?_, ?_⟩
  · rw [List.append_assoc, scanFrom_text, hscan rest hrest]
    simp [Function.comp_def]
  · rw [List.foldlM_cons, haccept]
    exact hfold

/-- A word leads on with its value. -/
theorem leads_word {word : List Char} (hne : word ≠ []) (h : ∀ c ∈ word, isBare c = true)
    {value : Datum} (hvalue : atom? word = some value)
    (haccept : accept start.1 start.2 (.atom value) = some stop) : Leads word start stop :=
  ⟨[.atom value], fun _ hrest => scanFrom_word hne h hvalue hrest, by
    rw [List.foldlM_cons, haccept]
    rfl⟩

/-! ### Whole trees -/

/-- Whether a value may come next. -/
def Expected.isOpen : Expected → Bool
  | .value => true
  | .firstValue => true
  | _ => false

/-- What begins a value is taken in the same way wherever a value may stand. -/
theorem accept_open {expected : Expected} (h : expected.isOpen = true) {token : Token}
    (htoken : (openValue stack token).isSome = true) :
    accept stack expected token = openValue stack token := by
  cases expected with
  | value => cases token <;> rfl
  | firstValue => cases token <;> first | rfl | cases htoken
  | _ => cases h

/-- Whether a tree is read as it was written, wherever a value may stand. -/
def ReadsBack (d : Datum) : Prop :=
  ∀ depth stack expected, expected.isOpen = true →
    Leads (write depth d) (stack, expected) (stack, .afterValue d)

/-- What is a word of its own is read as it was written. -/
theorem readsBack_of_word {word : List Char} (hne : word ≠ [])
    (h : word.all isBare = true) {value : Datum} (hvalue : atom? word = some value)
    (hwrite : ∀ depth, write depth value = word) : ReadsBack value := by
  intro depth stack expected hopen
  rw [hwrite]
  exact leads_word hne (List.all_eq_true.1 h) hvalue (accept_open hopen rfl)

/-- The items after the first one are read, and the list is closed. -/
theorem leads_items (stack : List Frame) {items : List Datum} (h : ∀ d ∈ items, ReadsBack d)
    (inner outer : Nat) (done : List Datum) (value : Datum) :
    Leads (writeItems inner items ++ (newLine outer ++ [']']))
      (.list done :: stack, .afterValue value)
      (stack, .afterValue (.list ((value :: done).reverse ++ items))) := by
  induction items generalizing done value with
  | nil =>
    rw [List.append_nil]
    exact .newLine outer (.cons rfl rfl (leads_nil _))
  | cons item rest ih =>
    obtain ⟨hitem, hrest⟩ := List.forall_mem_cons.1 h
    have hmore := ih hrest (value :: done) item
    simp only [writeItems, List.cons_append, List.append_assoc]
    refine .cons rfl rfl (.newLine inner ((hitem inner _ .value rfl).append ?_ fun after => ?_))
    · simpa using hmore
    · cases rest <;> exact delimited_cons (by decide) _

/-- An entry of a record is read, the key before the value. -/
theorem leads_entry {entry : Option String × Datum} (hkey : entry.1.isSome = true)
    (h : ReadsBack entry.2) (depth : Nat) {done : List (Option String × Datum)}
    (haccept : ∀ key, accept start.1 start.2 (.text (some key)) =
      some (stack, .colon done (some key))) :
    Leads (writeEntry depth entry) start
      (.record done entry.1 :: stack, .afterValue entry.2) := by
  obtain ⟨_ | key, value⟩ := entry
  · cases hkey
  · exact .text key (haccept key) (.cons rfl rfl (.blank rfl (h depth _ .value rfl)))

/-- The entries after the first one are read, and the record is closed. -/
theorem leads_entries (stack : List Frame) {entries : List (Option String × Datum)}
    (hkeys : ∀ e ∈ entries, e.1.isSome = true) (h : ∀ e ∈ entries, ReadsBack e.2)
    (inner outer : Nat) (done : List (Option String × Datum)) (key : Option String)
    (value : Datum) :
    Leads (writeEntries inner entries ++ (newLine outer ++ ['\x7d']))
      (.record done key :: stack, .afterValue value)
      (stack, .afterValue (.record (((key, value) :: done).reverse ++ entries))) := by
  induction entries generalizing done key value with
  | nil =>
    rw [List.append_nil]
    exact .newLine outer (.cons rfl rfl (leads_nil _))
  | cons entry rest ih =>
    obtain ⟨hkey, hkeys⟩ := List.forall_mem_cons.1 hkeys
    obtain ⟨hentry, hrest⟩ := List.forall_mem_cons.1 h
    have hmore := ih hkeys hrest ((key, value) :: done) entry.1 entry.2
    simp only [writeEntries, List.cons_append, List.append_assoc]
    refine .cons rfl rfl (.newLine inner
      ((leads_entry hkey hentry inner fun _ => rfl).append ?_ fun after => ?_))
    · simpa using hmore
    · cases rest <;> exact delimited_cons (by decide) _

/-- A tree that can be written is read as it was written. -/
theorem readsBack_of_plain {d : Datum} (h : d.Plain) : ReadsBack d := by
  induction h with
  | null =>
    have hvalue : atom? ['n', 'u', 'l', 'l'] = some .null := rfl
    exact readsBack_of_word (by decide) (by decide) hvalue fun depth => by rw [write]
  | flag value =>
    cases value with
    | true =>
      have hvalue : atom? ['t', 'r', 'u', 'e'] = some (.flag true) := rfl
      exact readsBack_of_word (by decide) (by decide) hvalue fun depth => by rw [write]
    | false =>
      have hvalue : atom? ['f', 'a', 'l', 's', 'e'] = some (.flag false) := rfl
      exact readsBack_of_word (by decide) (by decide) hvalue fun depth => by rw [write]
  | number n =>
    have hbare : (Text.decimal n).all isBare = true :=
      List.all_eq_true.2 fun c hc => isBare_of_mem_decimal hc
    refine readsBack_of_word (Text.decimal_ne_nil n) hbare (atom?_decimal n) fun depth => ?_
    rw [Datum.ofNat, write, Text.toList_toString]
  | text s =>
    intro depth stack expected hopen
    have hpiece : Leads (writeText s ++ []) (stack, expected) (stack, .afterValue (.ofString s)) :=
      .text s (accept_open hopen rfl) (leads_nil _)
    rwa [List.append_nil] at hpiece
  | list h ih =>
    rename_i items
    intro depth stack expected hopen
    cases items with
    | nil => exact .cons rfl (accept_open hopen rfl) (.cons rfl rfl (leads_nil _))
    | cons item rest =>
      obtain ⟨hitem, hrest⟩ := List.forall_mem_cons.1 ih
      have hmore := leads_items stack hrest (depth + 1) depth [] item
      simp only [write, List.cons_append, List.append_assoc]
      refine .cons rfl (accept_open hopen rfl) (.newLine _
        ((hitem _ _ .firstValue rfl).append hmore fun after => ?_))
      cases rest <;> exact delimited_cons (by decide) _
  | record hkeys h ih =>
    rename_i entries
    intro depth stack expected hopen
    cases entries with
    | nil => exact .cons rfl (accept_open hopen rfl) (.cons rfl rfl (leads_nil _))
    | cons entry rest =>
      obtain ⟨hkey, hkeys⟩ := List.forall_mem_cons.1 hkeys
      obtain ⟨hentry, hrest⟩ := List.forall_mem_cons.1 ih
      have hmore := leads_entries stack hkeys hrest (depth + 1) depth [] entry.1 entry.2
      simp only [write, List.cons_append, List.append_assoc]
      refine .cons rfl (accept_open hopen rfl) (.newLine _
        ((leads_entry hkey hentry _ fun _ => rfl).append hmore fun after => ?_))
      cases rest <;> exact delimited_cons (by decide) _

end Json

/-- A tree that can be written as JSON is read from it again. -/
theorem Datum.ofJson?_toJson {d : Datum} (h : d.Plain) : ofJson? d.toJson = some d := by
  obtain ⟨tokens, hscan, hfold⟩ := Json.readsBack_of_plain h 0 [] .value rfl
  have htokens : Json.scan (Json.write 0 d) = some tokens := by
    have hall := hscan [] Json.delimited_nil
    rw [List.append_nil] at hall
    rw [Json.scan_eq, hall]
    simp [Json.scanFrom, Json.finish]
  have hassemble : Json.assemble tokens = some d :=
    Option.bind_eq_some_iff.2 ⟨([], .afterValue d), hfold, rfl⟩
  rw [ofJson?, toJson, String.toList_ofList, htokens]
  exact hassemble

end StateExplorer
