import TypeAncestry.Proofs.Signature.Places
import TypeAncestry.Proofs.Signature.States

/-!
# Reading by descent

A signature can also be read without lexemes, by functions that call each other as the grammar has
it, over a position in the text.  The position counts bytes, and each function takes the text from
it on, which is only there if the position lies between two characters.  Here the check is made at
every slice, and a reading that fails it stops for that.

The functions share an account.  It holds the counter of levels, which is entered where a list of
arguments begins and left behind it, whatever came of the list; and it notes every call that is made
to read a signature, with the calls that are active then and with the counter.

* `dropBytes?`, `takeBytes?` : the two slices, with their checks.
* `Descent.Account` : what the functions share.
* `Descent.called`, `Descent.bracketed` : what is done before and behind a call and a list.
* `Descent.readType`, `Descent.readArguments` : the functions that call each other.
* `Descent.ofText` : a text read by descent.
* `Descent.skipBlanks_of_at`, `Descent.token_of_at` : no slice fails between two characters, and
  what is read there are the lexemes.
-/

namespace TypeAncestry

namespace Signature

/-! ### Slices -/

/-- The characters behind the first `n` bytes; none if these end inside a character or are not
there. -/
def dropBytes? : List Char → Nat → Option (List Char)
  | cs, 0 => some cs
  | [], _ + 1 => none
  | c :: cs, n + 1 => if c.utf8Size ≤ n + 1 then dropBytes? cs (n + 1 - c.utf8Size) else none

/-- The characters of the first `n` bytes; none if these end inside a character or are not there. -/
def takeBytes? : List Char → Nat → Option (List Char)
  | _, 0 => some []
  | [], _ + 1 => none
  | c :: cs, n + 1 =>
    if c.utf8Size ≤ n + 1 then (takeBytes? cs (n + 1 - c.utf8Size)).map (c :: ·) else none

theorem dropBytes?_eq_some_iff {cs post : List Char} {n : Nat} :
    dropBytes? cs n = some post ↔ ∃ pre, cs = pre ++ post ∧ byteSize pre = n := by
  induction cs, n using dropBytes?.induct with
  | case1 cs =>
    rw [dropBytes?]
    constructor
    · rintro ⟨⟩
      exact ⟨[], rfl, rfl⟩
    · rintro ⟨pre, rfl, hsize⟩
      cases pre with
      | nil => rfl
      | cons c pre =>
        have := c.utf8Size_pos
        rw [byteSize_cons] at hsize
        omega
  | case2 n =>
    rw [dropBytes?]
    constructor
    · intro h
      cases h
    · rintro ⟨pre, hnil, hsize⟩
      obtain ⟨rfl, -⟩ := List.append_eq_nil_iff.1 hnil.symm
      cases hsize
  | case3 c cs n hle ih =>
    rw [dropBytes?, if_pos hle, ih]
    clear ih
    constructor
    · rintro ⟨pre, rfl, hsize⟩
      refine ⟨c :: pre, rfl, ?_⟩
      rw [byteSize_cons]
      omega
    · rintro ⟨_ | ⟨d, pre⟩, heq, hsize⟩
      · cases hsize
      · obtain ⟨rfl, rfl⟩ := List.cons.inj heq
        rw [byteSize_cons] at hsize
        exact ⟨pre, rfl, by omega⟩
  | case4 c cs n hle =>
    rw [dropBytes?, if_neg hle]
    constructor
    · intro h
      cases h
    · rintro ⟨_ | ⟨d, pre⟩, heq, hsize⟩
      · cases hsize
      · obtain ⟨rfl, rfl⟩ := List.cons.inj heq
        rw [byteSize_cons] at hsize
        omega

theorem takeBytes?_append (pre post : List Char) :
    takeBytes? (pre ++ post) (byteSize pre) = some pre := by
  induction pre with
  | nil => simp [takeBytes?]
  | cons c pre ih =>
    obtain ⟨n, hn⟩ : ∃ n, c.utf8Size = n + 1 :=
      Nat.exists_eq_succ_of_ne_zero (Nat.ne_of_gt c.utf8Size_pos)
    have hsize : byteSize (c :: pre) = (n + byteSize pre) + 1 := by rw [byteSize_cons, hn]; omega
    have hrest : n + byteSize pre + 1 - c.utf8Size = byteSize pre := by omega
    rw [hsize, List.cons_append, takeBytes?, if_pos (by omega), hrest, ih]
    rfl

/-! ### The account -/

namespace Descent

/-- Why a reading stops before its end. -/
inductive Stop where
  /-- The text is not a signature. -/
  | fault (e : SignatureError)
  /-- A slice of the text is taken at a position that is not between two characters of it. -/
  | slice (position : Nat)
  /-- More calls are needed than were allowed. -/
  | exhausted
  deriving DecidableEq, Repr

/-- A call that is made to read a signature. -/
structure Call where
  /-- How many such calls are active, this one included. -/
  active : Nat
  /-- The counter when the call is made. -/
  levels : Levels
  deriving DecidableEq, Repr

/-- What the functions of the descent share. -/
structure Account where
  /-- The counter of open brackets. -/
  levels : Levels
  /-- The first misuse of the counter, if there was one. -/
  misuse : Option Misuse
  /-- How many calls that read a signature are active. -/
  active : Nat
  /-- The calls that were made to read a signature, in their order. -/
  calls : List Call

/-- The account before anything is read. -/
def Account.new : Account := ⟨Levels.new Limits.signature.maxDepth, none, 0, []⟩

/-- A call begins. -/
def Account.call (a : Account) : Account :=
  { a with active := a.active + 1, calls := a.calls ++ [⟨a.active + 1, a.levels⟩] }

/-- A call ends. -/
def Account.finish (a : Account) : Account := { a with active := a.active - 1 }

/-- Leave a level of the counter. -/
def Account.leave (a : Account) : Account :=
  match a.levels.leave with
  | .ok l => { a with levels := l }
  | .error m => { a with misuse := a.misuse.or (some m) }

/-- A function of the descent: it stops or comes to a value, and the account is there in both
cases. -/
abbrev Reader (α : Type) : Type := ExceptT Stop (StateM Account) α

/-- Make a call to read a signature.  It is active until it returns, with a value or without. -/
def called {α : Type} (body : Reader α) : Reader α := fun account =>
  let (result, account) := body account.call
  (result, account.finish)

/-- Read a list behind the bracket at a position, one level further in.  The level is left whatever
comes of the list; a level that was refused is not left. -/
def bracketed {α : Type} (p : Nat) (list : Reader α) : Reader α := fun account =>
  match account.levels.enter? with
  | some inner =>
    let (result, account) := list { account with levels := inner }
    (result, account.leave)
  | none => (.error (.fault (.tooDeep p)), account)

/-! ### The reader -/

section Functions

variable (text : List Char)

/-- The text from a position on. -/
def rest (p : Nat) : Reader (List Char) :=
  match dropBytes? text p with
  | some cs => return cs
  | none => throw (.slice p)

/-- The character at a position; none at the end. -/
def peek (p : Nat) : Reader (Option Char) := do
  let cs ← rest text p
  return cs.head?

/-- The position behind the white space. -/
def skipBlanks (p : Nat) : Reader Nat := do
  let cs ← rest text p
  return p + (byteSize cs - byteSize (cs.dropWhile Text.isBlank))

/-- The position behind a character, if it is the one that is expected. -/
def eat (expected : Char) (p : Nat) : Reader Nat := do
  let found ← peek text p
  return if found = some expected then p + expected.utf8Size else p

/-- The word of some characters, if there are any. -/
def wordOf? : List Char → Option Word
  | [] => none
  | c :: cs => some ⟨c, cs⟩

/-- The word at a position, if there is one, and the position behind it. -/
def token (p : Nat) : Reader (Option Word × Nat) := do
  let cs ← rest text p
  let size := byteSize (cs.takeWhile isWordChar)
  match takeBytes? cs size with
  | some w => return (wordOf? w, p + size)
  | none => throw (.slice (p + size))

/-- Read what may follow a wildcard: a word that announces a bound, and the bound, which is
dropped. -/
def readBound (readType : Nat → Reader (TypeTree × Nat)) (p : Nat) : Reader (TypeTree × Nat) := do
  let checkpoint ← skipBlanks text p
  let (word, p) ← token text checkpoint
  match word.bind Bound.ofWord? with
  | some _ =>
    let (_, p) ← readType p
    return (.top, p)
  | none => return (.top, checkpoint)

/-- Read what may follow a name: a list of arguments in brackets. -/
def readApplied (readArguments : Nat → Reader (List TypeTree × Nat)) (n : Word) (p : Nat) :
    Reader (TypeTree × Nat) := do
  let p ← skipBlanks text p
  if (← peek text p) = some '<' then
    let (trees, p) ← bracketed p do
      let p ← eat text '<' p
      readArguments p
    return (denoted n trees, p)
  else return (denoted n [], p)

/-- Read what follows an argument: a comma and more arguments, or the closing bracket. -/
def readMore (readArguments : Nat → Reader (List TypeTree × Nat)) (tree : TypeTree) (p : Nat) :
    Reader (List TypeTree × Nat) := do
  let p ← skipBlanks text p
  match ← peek text p with
  | some found =>
    if found = ',' then
      let p ← eat text ',' p
      let (trees, p) ← readArguments p
      return (tree :: trees, p)
    else if found = '>' then
      let p ← eat text '>' p
      return ([tree], p)
    else throw (.fault (.unexpectedChar found p))
  | none => throw (.fault (.unexpectedEnd p))

mutual

/-- Read a signature: its tree, and the position behind it. -/
def readType : Nat → Nat → Reader (TypeTree × Nat)
  | 0, _ => throw .exhausted
  | fuel + 1, p => called do
    let start ← skipBlanks text p
    let (word, p) ← token text start
    match word with
    | none =>
      match ← peek text p with
      | some found => throw (.fault (.unexpectedChar found start))
      | none => throw (.fault (.unexpectedEnd start))
    | some n =>
      if n = .wildcard then readBound text (readType fuel) p
      else readApplied text (readArguments fuel) n p

/-- Read arguments to their closing bracket: their trees, and the position behind it. -/
def readArguments : Nat → Nat → Reader (List TypeTree × Nat)
  | 0, _ => throw .exhausted
  | fuel + 1, p => do
    let p ← skipBlanks text p
    let first ← peek text p
    if first = some ',' ∨ first = some '>' then throw (.fault (.emptyArgument p))
    else
      let (tree, p) ← readType fuel p
      readMore text (readArguments fuel) tree p

end

/-- Read a signature that is the whole text.  There are at most two calls for each character. -/
def readText : Reader TypeTree := do
  let (tree, p) ← readType text (2 * text.length + 1) 0
  let p ← skipBlanks text p
  if p < byteSize text then throw (.fault (.trailingInput p)) else return tree

end Functions

end Descent

/-- The result of reading a text by descent. -/
structure Descent where
  /-- The tree, or why the reading stopped. -/
  outcome : Except Descent.Stop TypeTree
  /-- The counter of open brackets at the end. -/
  levels : Levels
  /-- The first misuse of the counter, if there was one. -/
  misuse : Option Misuse
  /-- The calls that were made to read a signature, in their order. -/
  calls : List Descent.Call

/-- Read a text by descent. -/
def Descent.ofText (text : String) : Descent :=
  let (outcome, account) := readText text.toList .new
  { outcome := outcome
    levels := account.levels
    misuse := account.misuse.or account.levels.abandon
    calls := account.calls }

namespace Descent

/-! ### One step after another -/

variable {α β : Type} {a b : Account}

/-- Go on behind a function that has come to a value. -/
theorem bind_of_ok {x : Reader α} {f : α → Reader β} {v : α} (h : x a = (.ok v, b)) :
    (x >>= f) a = f v b := by
  simp only [bind, ExceptT.bind, ExceptT.mk, StateT.bind, h]
  rfl

/-- Behind a function that has stopped, nothing is done. -/
theorem bind_of_error {x : Reader α} {f : α → Reader β} {e : Stop} (h : x a = (.error e, b)) :
    (x >>= f) a = (.error e, b) := by
  simp only [bind, ExceptT.bind, ExceptT.mk, StateT.bind, h]
  rfl

/-! ### Positions between characters -/

variable {text cs : List Char} {p : Nat}

/-- The position `p` is the one from which on the text is `cs`. -/
def At (text : List Char) (p : Nat) (cs : List Char) : Prop :=
  ∃ pre, text = pre ++ cs ∧ byteSize pre = p

theorem At.append {ds : List Char} (h : At text p (ds ++ cs)) : At text (p + byteSize ds) cs := by
  obtain ⟨pre, rfl, rfl⟩ := h
  exact ⟨pre ++ ds, by rw [List.append_assoc], by rw [byteSize_append]⟩

/-- **No slice fails at a position between two characters.** -/
theorem rest_of_at (h : At text p cs) : rest text p a = (.ok cs, a) := by
  rw [rest, dropBytes?_eq_some_iff.2 h]
  rfl

theorem peek_of_at (h : At text p cs) : peek text p a = (.ok cs.head?, a) := by
  rw [peek, bind_of_ok (rest_of_at h)]
  rfl

theorem eat_of_at {c : Char} (h : At text p (c :: cs)) :
    eat text c p a = (.ok (p + c.utf8Size), a) ∧ At text (p + c.utf8Size) cs := by
  have hat : At text p ([c] ++ cs) := h
  refine ⟨?_, hat.append⟩
  rw [eat, bind_of_ok (peek_of_at h), List.head?_cons, if_pos rfl]
  rfl

theorem scan_blanks (blanks : List Char) (h : ∀ c ∈ blanks, Text.isBlank c = true) :
    ∀ p, Lexeme.scan p (blanks ++ cs) = Lexeme.scan (p + byteSize blanks) cs := by
  induction blanks with
  | nil => intro p; rfl
  | cons c blanks ih =>
    obtain ⟨hc, hblanks⟩ := List.forall_mem_cons.1 h
    intro p
    rw [List.cons_append, Lexeme.scan_blank _ _ hc, ih hblanks, byteSize_cons, Nat.add_assoc]

/-- A text begins with a longest run of characters of some kind. -/
theorem exists_run (kind : Char → Bool) (cs : List Char) :
    ∃ front back, cs = front ++ back ∧ cs.takeWhile kind = front ∧ cs.dropWhile kind = back ∧
      (∀ c ∈ front, kind c = true) ∧ ∀ c ∈ back.head?, kind c = false := by
  refine ⟨_, _, List.takeWhile_append_dropWhile.symm, rfl, rfl,
    List.all_eq_true.1 List.all_takeWhile, fun c hc => ?_⟩
  have hhead := List.head?_dropWhile_not kind cs
  rw [Option.mem_def.1 hc] at hhead
  simpa using hhead

/-- Behind white space the lexemes are the same, and no white space follows. -/
theorem skipBlanks_of_at (h : At text p cs) :
    ∃ p' cs', (∀ a, skipBlanks text p a = (.ok p', a)) ∧ At text p' cs' ∧
      cs'.length ≤ cs.length ∧ Lexeme.scan p cs = Lexeme.scan p' cs' ∧
      ∀ c ∈ cs'.head?, Text.isBlank c = false := by
  obtain ⟨blanks, cs', hcs, -, hdrop, hblanks, hend⟩ := exists_run Text.isBlank cs
  refine ⟨p + byteSize blanks, cs', ?_, (hcs ▸ h).append, ?_, ?_, hend⟩
  · have hsize : byteSize cs - byteSize cs' = byteSize blanks := by
      rw [hcs, byteSize_append, Nat.add_sub_cancel]
    intro a
    rw [skipBlanks, bind_of_ok (rest_of_at h), hdrop, hsize]
    rfl
  · rw [hcs, List.length_append]
    omega
  · rw [hcs, scan_blanks blanks hblanks]

/-- At a position stands a word, which is the first lexeme, or no character of a word. -/
theorem token_of_at (h : At text p cs) :
    ((∀ a, token text p a = (.ok (none, p), a)) ∧ ∀ c ∈ cs.head?, isWordChar c = false) ∨
    ∃ w p' cs', (∀ a, token text p a = (.ok (some w, p'), a)) ∧ At text p' cs' ∧
      cs'.length < cs.length ∧ Lexeme.scan p cs = ⟨.word w, p⟩ :: Lexeme.scan p' cs' := by
  obtain ⟨front, cs', hcs, htake, -, hfront, hend⟩ := exists_run isWordChar cs
  have htoken : ∀ a, token text p a = (.ok (wordOf? front, p + byteSize front), a) := by
    intro a
    have hslice : takeBytes? cs (byteSize front) = some front := by
      rw [hcs]
      exact takeBytes?_append front cs'
    rw [token, bind_of_ok (rest_of_at h)]
    simp only [htake, hslice]
    rfl
  have hat : At text (p + byteSize front) cs' := (hcs ▸ h).append
  cases front with
  | nil =>
    obtain rfl : cs = cs' := hcs
    exact .inl ⟨htoken, hend⟩
  | cons c front =>
    refine .inr ⟨⟨c, front⟩, _, cs', htoken, hat, ?_, ?_⟩
    · rw [hcs, List.cons_append, List.length_cons, List.length_append]
      omega
    · rw [hcs, Lexeme.scan_word hend front c p hfront]

/-- A character that is not white space begins a lexeme. -/
theorem scan_visible {c : Char} (hc : Text.isBlank c = false) (ds : List Char) (p : Nat) :
    ∃ t ls, Lexeme.scan p (c :: ds) = ⟨t, p⟩ :: ls ∧ t.first = c ∧
      ∀ w, t = .word w → isWordChar c = true := by
  rcases hm : Token.ofMark? c with _ | t
  · have hword : isWordChar c = true := isWordChar_iff.2 ⟨hc, hm⟩
    obtain ⟨front, back, hcs, -, hdrop, hfront, hend⟩ := exists_run isWordChar (c :: ds)
    cases front with
    | nil =>
      obtain rfl : c :: ds = back := hcs
      rw [hend c rfl] at hword
      cases hword
    | cons d front =>
      obtain ⟨rfl, rfl⟩ := List.cons.inj hcs
      exact ⟨.word ⟨c, front⟩, _, Lexeme.scan_word hend front c p hfront, rfl, fun _ _ => hword⟩
  · exact ⟨t, _, Lexeme.scan_mark ds p hm, first_of_ofMark? hm,
      fun w hw => absurd hw ((eq_of_ofMark? hm).2 w)⟩

/-- The first lexeme of a text that does not begin with white space. -/
theorem head_scan (hblank : ∀ c ∈ cs.head?, Text.isBlank c = false) {l : Lexeme}
    (hl : l ∈ (Lexeme.scan p cs).head?) :
    cs.head? = some l.token.first ∧ ∀ w, l.token = .word w → isWordChar l.token.first = true := by
  cases cs with
  | nil => cases hl
  | cons c ds =>
    obtain ⟨t, ls, hscan, rfl, hword⟩ := scan_visible (hblank c rfl) ds p
    rw [hscan] at hl
    obtain rfl := Option.some.inj hl
    exact ⟨rfl, hword⟩

end Descent

end Signature

end TypeAncestry
