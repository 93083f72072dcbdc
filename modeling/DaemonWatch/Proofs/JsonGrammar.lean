/-
  Which trees JSON text spells.

  1. **Specification** (`Tree.IsSpelledBy`): a tree is spelled by its tokens (`Tree.tokens`), each
     in one of its spellings, with any space between them.

  2. **From the tree to the tokens.**  The tokens of a tree hand it to the innermost open frame of
     the builder, which is one induction over trees, items and members (`run?_tokens`).  So they
     build the tree (`ofTokens?_tokens`).

  3. **From the tokens to the tree.**  The frames stand for the tokens that have opened and filled
     them (`allOpened`, the outermost first), each content with a comma behind it.
     `Builder.HasRead` says which tokens have led to a builder, one case for each thing that it may
     expect.  The crux is that a token keeps this account (`Builder.HasRead.step`); a closing
     bracket takes the place of the last comma (`read_of_comma`).  So nothing but its own tokens
     builds a tree (`ofTokens?_eq_some_iff`).

  4. **Bridge.**  The tokens of a tree stand apart (`apart_tokens`): behind a number in it comes a
     comma or a closing bracket.  So they are read from any text that spells them, and a text is
     read as the tree that it spells and as no other (`ofText?_eq_some_iff`).
-/
import DaemonWatch.Json.Tree
import DaemonWatch.Proofs.JsonReading

namespace DaemonWatch.Json.Tree

open Text

/-! ## The tokens of a tree -/

mutual

/-- The tokens of a tree. -/
def tokens : Tree → List Token
  | .null => [.null]
  | .bool b => [.bool b]
  | .number l => [.number l]
  | .text s => [.text s]
  | .array items => .openArray :: itemsTokens items ++ [.closeArray]
  | .object members => .openObject :: membersTokens members ++ [.closeObject]

/-- The tokens of an array's items. -/
def itemsTokens : List Tree → List Token
  | [] => []
  | [t] => t.tokens
  | t :: rest => t.tokens ++ .comma :: itemsTokens rest

/-- The tokens of an object's members. -/
def membersTokens : List (List Piece × Tree) → List Token
  | [] => []
  | [(key, t)] => .text key :: .colon :: t.tokens
  | (key, t) :: rest => .text key :: .colon :: t.tokens ++ .comma :: membersTokens rest

end

/-- How a tree is spelled. -/
def IsSpelledBy (t : Tree) (s : Gapped) : Prop := Token.AreSpelledBy t.tokens s

/-! ## Building a tree from its tokens -/

/-- A value does not begin with a closing bracket. -/
theorem exists_tokens_eq (t : Tree) :
    ∃ token rest, t.tokens = token :: rest ∧ token ≠ .closeArray := by
  cases t with
  | array | object => exact ⟨_, _, rfl, by decide⟩
  | null | bool | number | text => exact ⟨_, _, rfl, by simp⟩

namespace Builder

/-- The first item of an array is taken like any other. -/
theorem run?_firstItem {ts : List Tree} (notNil : ts ≠ []) (frames : List Frame)
    (rest : List Token) :
    run? ⟨.firstItem, frames, none⟩ (itemsTokens ts ++ rest) =
      run? ⟨.value, frames, none⟩ (itemsTokens ts ++ rest) := by
  obtain ⟨t, us, rfl⟩ := List.exists_cons_of_ne_nil notNil
  obtain ⟨token, more, tokens, noClose⟩ := t.exists_tokens_eq
  cases us <;> simp only [itemsTokens, tokens, List.cons_append, run?, step?, if_neg noClose]

/-- The first key of an object is taken like any other. -/
theorem run?_firstKey {ms : List (List Piece × Tree)} (notNil : ms ≠ []) (frames : List Frame)
    (rest : List Token) :
    run? ⟨.firstKey, frames, none⟩ (membersTokens ms ++ rest) =
      run? ⟨.nextKey, frames, none⟩ (membersTokens ms ++ rest) := by
  obtain ⟨m, ns, rfl⟩ := List.exists_cons_of_ne_nil notNil
  cases ns <;> rfl

-- The frames are whatever is open around the tree, so that the recursion can push its own.
mutual

/-- The tokens of a tree hand the tree to the innermost frame. -/
theorem run?_tokens : ∀ (t : Tree) (frames : List Frame) (rest : List Token),
    run? ⟨.value, frames, none⟩ (t.tokens ++ rest) = (give? t frames).bind (run? · rest)
  | .null, frames, rest => rfl
  | .bool b, frames, rest => rfl
  | .number l, frames, rest => rfl
  | .text s, frames, rest => rfl
  | .array [], frames, rest => rfl
  | .array (t :: ts), frames, rest => by
    have body := run?_itemsTokens (t :: ts) (List.cons_ne_nil _ _) [] frames rest
    rw [← run?_firstItem (List.cons_ne_nil _ _)] at body
    rw [tokens, List.append_assoc]
    exact body
  | .object [], frames, rest => rfl
  | .object (m :: ms), frames, rest => by
    have body := run?_membersTokens (m :: ms) (List.cons_ne_nil _ _) [] frames rest
    rw [← run?_firstKey (List.cons_ne_nil _ _)] at body
    rw [tokens, List.append_assoc]
    exact body

/-- The tokens of an array's items and its end hand the array on. -/
theorem run?_itemsTokens : ∀ (ts : List Tree) (_ : ts ≠ []) (done : List Tree)
    (frames : List Frame) (rest : List Token),
    run? ⟨.value, .array done :: frames, none⟩ (itemsTokens ts ++ .closeArray :: rest) =
      (give? (.array (done.reverse ++ ts)) frames).bind (run? · rest)
  | [], notNil, _, _, _ => absurd rfl notNil
  | [t], _, done, frames, rest => by
    have item := run?_tokens t (.array done :: frames) (.closeArray :: rest)
    rw [itemsTokens, item, ← List.reverse_cons]
    rfl
  | t :: u :: us, _, done, frames, rest => by
    have item := run?_tokens t (.array done :: frames)
      (.comma :: (itemsTokens (u :: us) ++ .closeArray :: rest))
    have more := run?_itemsTokens (u :: us) (List.cons_ne_nil _ _) (t :: done) frames rest
    rw [List.reverse_cons, List.append_assoc] at more
    simp only [itemsTokens, List.append_assoc, List.cons_append]
    rw [item]
    exact more

/-- The tokens of an object's members and its end hand the object on. -/
theorem run?_membersTokens : ∀ (ms : List (List Piece × Tree)) (_ : ms ≠ [])
    (done : List (List Piece × Tree)) (frames : List Frame) (rest : List Token),
    run? ⟨.nextKey, .object done :: frames, none⟩ (membersTokens ms ++ .closeObject :: rest) =
      (give? (.object (done.reverse ++ ms)) frames).bind (run? · rest)
  | [], notNil, _, _, _ => absurd rfl notNil
  | [(key, t)], _, done, frames, rest => by
    have value := run?_tokens t (.member done key :: frames) (.closeObject :: rest)
    rw [← List.reverse_cons]
    exact value
  | (key, t) :: m :: ms, _, done, frames, rest => by
    have value := run?_tokens t (.member done key :: frames)
      (.comma :: (membersTokens (m :: ms) ++ .closeObject :: rest))
    have more := run?_membersTokens (m :: ms) (List.cons_ne_nil _ _) ((key, t) :: done) frames rest
    rw [List.reverse_cons, List.append_assoc] at more
    simp only [membersTokens, List.append_assoc, List.cons_append]
    exact value.trans more

end

end Builder

/-- **The tokens of a tree build the tree.**  Nothing is left over, since no frame is open when the
tree is handed on. -/
theorem ofTokens?_tokens (t : Tree) : ofTokens? t.tokens = some t := by
  have run := Builder.run?_tokens t [] []
  rw [List.append_nil] at run
  rw [ofTokens?, Builder.start, run]
  rfl

/-! ## What has been read of a tree -/

/-- The tokens of a member. -/
def memberTokens (m : List Piece × Tree) : List Token := .text m.1 :: .colon :: m.2.tokens

/-- The tokens that an open frame stands for: its bracket, and what it holds, each with a comma
behind it. -/
def opened : Frame → List Token
  | .array items => .openArray :: items.reverse.flatMap fun t => t.tokens ++ [.comma]
  | .object members => .openObject :: members.reverse.flatMap fun m => memberTokens m ++ [.comma]
  | .member members key =>
    .openObject :: (members.reverse.flatMap fun m => memberTokens m ++ [.comma]) ++
      [.text key, .colon]

/-- The tokens that open frames stand for, the innermost frame first. -/
def allOpened : List Frame → List Token
  | [] => []
  | f :: rest => allOpened rest ++ opened f

theorem itemsTokens_comma {items : List Tree} (notNil : items ≠ []) :
    itemsTokens items ++ [.comma] = items.flatMap fun t => t.tokens ++ [.comma] := by
  induction items with
  | nil => exact absurd rfl notNil
  | cons t rest ih =>
    cases rest with
    | nil => simp [itemsTokens]
    | cons u us =>
      have more := ih (List.cons_ne_nil _ _)
      rw [List.flatMap_cons, ← more]
      simp [itemsTokens]

theorem membersTokens_comma {members : List (List Piece × Tree)} (notNil : members ≠ []) :
    membersTokens members ++ [.comma] =
      members.flatMap fun m => memberTokens m ++ [.comma] := by
  induction members with
  | nil => exact absurd rfl notNil
  | cons m rest ih =>
    cases rest with
    | nil => simp [membersTokens, memberTokens]
    | cons n ns =>
      have more := ih (List.cons_ne_nil _ _)
      rw [List.flatMap_cons, ← more]
      simp [membersTokens, memberTokens]

namespace Builder

/-- The tokens that have led to a builder.  Where a comma, a colon or a closing bracket has to
follow, they are those of the frames but for the last one. -/
inductive HasRead : Builder → List Token → Prop
  | value {frames : List Frame} : HasRead ⟨.value, frames, none⟩ (allOpened frames)
  | firstItem {rest : List Frame} :
      HasRead ⟨.firstItem, .array [] :: rest, none⟩ (allOpened rest ++ [.openArray])
  | firstKey {rest : List Frame} :
      HasRead ⟨.firstKey, .object [] :: rest, none⟩ (allOpened rest ++ [.openObject])
  | nextKey {frames : List Frame} : HasRead ⟨.nextKey, frames, none⟩ (allOpened frames)
  | colon {frames : List Frame} {ts : List Token} (read : ts ++ [.colon] = allOpened frames) :
      HasRead ⟨.colon, frames, none⟩ ts
  | more {frames : List Frame} {ts : List Token} (read : ts ++ [.comma] = allOpened frames) :
      HasRead ⟨.more, frames, none⟩ ts
  | nothing {t : Tree} : HasRead ⟨.nothing, [], some t⟩ t.tokens

/-- A tree that is handed to the frames has been read behind them. -/
theorem hasRead_of_give? {t : Tree} {frames : List Frame} {b : Builder}
    (given : give? t frames = some b) : b.HasRead (allOpened frames ++ t.tokens) := by
  cases frames with
  | nil =>
    cases given
    exact .nothing
  | cons f rest =>
    cases f with
    | array items =>
      cases given
      refine .more ?_
      simp [allOpened, opened]
    | object members => cases given
    | member members key =>
      cases given
      refine .more ?_
      simp [allOpened, opened, memberTokens]

/-- A token that begins a value. -/
theorem hasRead_of_value? {frames : List Frame} {t : Token} {b : Builder}
    (taken : value? frames t = some b) : b.HasRead (allOpened frames ++ [t]) := by
  cases t with
  | null | bool | number | text => exact hasRead_of_give? taken
  | openArray =>
    cases taken
    exact .firstItem
  | openObject =>
    cases taken
    exact .firstKey
  | closeArray | closeObject | comma | colon => cases taken

/-- A key. -/
theorem hasRead_of_key? {frames : List Frame} {t : Token} {b : Builder}
    (taken : key? frames t = some b) : b.HasRead (allOpened frames ++ [t]) := by
  unfold key? at taken
  split at taken
  next members rest key =>
    cases taken
    refine .colon ?_
    simp [allOpened, opened]
  next => cases taken

/-- Behind a comma at the end, a list of contents is not empty, and is what has been read. -/
theorem read_of_comma {α : Type} {ts outer : List Token} {bracket : Token} {contents : List α}
    {each : α → List Token} {all : List α → List Token} (noComma : bracket ≠ .comma)
    (joined : contents ≠ [] → all contents ++ [.comma] = contents.flatMap fun x => each x ++ [.comma])
    (read : ts ++ [.comma] =
      outer ++ bracket :: contents.flatMap fun x => each x ++ [.comma]) :
    ts = outer ++ bracket :: all contents := by
  by_cases empty : contents = []
  · rw [empty, List.flatMap_nil] at read
    exact absurd (List.append_inj' read rfl).2 (by simpa using noComma.symm)
  · rw [← joined empty, ← List.cons_append, ← List.append_assoc] at read
    exact List.append_cancel_right read

/-- The token that closes a frame. -/
theorem hasRead_of_close? {frames : List Frame} {ts : List Token} {t : Token} {b : Builder}
    (read : ts ++ [.comma] = allOpened frames) (taken : close? frames t = some b) :
    b.HasRead (ts ++ [t]) := by
  unfold close? at taken
  split at taken
  next items rest =>
    have given := hasRead_of_give? taken
    have before := read_of_comma (by decide) itemsTokens_comma read
    rw [before, List.append_assoc]
    exact given
  next members rest =>
    have given := hasRead_of_give? taken
    have before := read_of_comma (by decide) membersTokens_comma read
    rw [before, List.append_assoc]
    exact given
  next => cases taken

/-- **A token keeps account of what has been read.**  The cases are those of what the builder
expects; whatever is done with the token, the builder behind it accounts for one token more. -/
theorem HasRead.step {b b' : Builder} {ts : List Token} {t : Token} (hasRead : b.HasRead ts)
    (step : b.step? t = some b') : b'.HasRead (ts ++ [t]) := by
  cases hasRead with
  | value => exact hasRead_of_value? step
  | @firstItem rest =>
    simp only [step?] at step
    split_ifs at step with close
    · subst close
      have given := hasRead_of_give? step
      simpa [tokens, itemsTokens] using given
    · exact hasRead_of_value? step
  | firstKey =>
    simp only [step?] at step
    split_ifs at step with close
    · subst close
      have given := hasRead_of_give? step
      simpa [tokens, membersTokens] using given
    · exact hasRead_of_key? step
  | nextKey => exact hasRead_of_key? step
  | colon read =>
    simp only [step?] at step
    split_ifs at step with colon
    cases step
    rw [colon, read]
    exact .value
  | @more frames ts read =>
    simp only [step?] at step
    split_ifs at step with comma
    · rw [comma, read]
      unfold comma? at step
      split at step
      · cases step
        exact .value
      · cases step
        exact .nextKey
      · cases step
    · exact hasRead_of_close? read step
  | nothing => cases step

/-- Tokens in turn. -/
theorem HasRead.run {b b' : Builder} {ts us : List Token} (hasRead : b.HasRead ts)
    (run : b.run? us = some b') : b'.HasRead (ts ++ us) := by
  induction us generalizing b ts with
  | nil =>
    cases run
    rwa [List.append_nil]
  | cons u us ih =>
    obtain ⟨next, step, rest⟩ := Option.bind_eq_some_iff.mp run
    have all := ih (hasRead.step step) rest
    rwa [List.append_assoc] at all

end Builder

/-- **A tree is built from its own tokens only.**  What has been read when the builder is done is
the tokens of the tree that it holds; the converse is `ofTokens?_tokens`. -/
theorem ofTokens?_eq_some_iff {ts : List Token} {t : Tree} :
    ofTokens? ts = some t ↔ ts = t.tokens := by
  constructor
  · intro built
    obtain ⟨b, run, tree⟩ := Option.bind_eq_some_iff.mp built
    have start : Builder.start.HasRead [] := @Builder.HasRead.value []
    have hasRead := start.run run
    rw [List.nil_append] at hasRead
    cases hasRead with
    | nothing =>
      cases tree
      rfl
    | value | firstItem | firstKey | nextKey | colon | more => cases tree
  · rintro rfl
    exact ofTokens?_tokens t

/-! ## The tokens of a tree stand apart -/

mutual

/-- No number in a tree runs into what stands behind it. -/
theorem apart_tokens : ∀ (t : Tree) {rest : List Token}, Apart rest → Ends rest →
    Apart (t.tokens ++ rest)
  | .null, rest, apart, _ => .other (by simp) apart
  | .bool b, rest, apart, _ => .other (by simp) apart
  | .number l, rest, apart, ends => .number ends apart
  | .text s, rest, apart, _ => .other (by simp) apart
  | .array items, rest, apart, _ => by
    have body : Apart (itemsTokens items ++ .closeArray :: rest) :=
      apart_itemsTokens items (.other (by simp) apart) (by simp [Ends])
    rw [tokens, List.append_assoc]
    exact .other (by simp) body
  | .object members, rest, apart, _ => by
    have body : Apart (membersTokens members ++ .closeObject :: rest) :=
      apart_membersTokens members (.other (by simp) apart) (by simp [Ends])
    rw [tokens, List.append_assoc]
    exact .other (by simp) body

/-- No number in the items of an array does. -/
theorem apart_itemsTokens : ∀ (items : List Tree) {rest : List Token}, Apart rest → Ends rest →
    Apart (itemsTokens items ++ rest)
  | [], rest, apart, _ => apart
  | [t], rest, apart, ends => apart_tokens t apart ends
  | t :: u :: us, rest, apart, ends => by
    have more := apart_itemsTokens (u :: us) apart ends
    have item : Apart (t.tokens ++ .comma :: (itemsTokens (u :: us) ++ rest)) :=
      apart_tokens t (.other (by simp) more) (by simp [Ends])
    simp only [itemsTokens, List.append_assoc, List.cons_append]
    exact item

/-- No number in the members of an object does. -/
theorem apart_membersTokens : ∀ (members : List (List Piece × Tree)) {rest : List Token},
    Apart rest → Ends rest → Apart (membersTokens members ++ rest)
  | [], rest, apart, _ => apart
  | [(key, t)], rest, apart, ends =>
    .other (by simp) (.other (by simp) (apart_tokens t apart ends))
  | (key, t) :: m :: ms, rest, apart, ends => by
    have more := apart_membersTokens (m :: ms) apart ends
    have value : Apart (t.tokens ++ .comma :: (membersTokens (m :: ms) ++ rest)) :=
      apart_tokens t (.other (by simp) more) (by simp [Ends])
    simp only [membersTokens, List.append_assoc, List.cons_append]
    exact .other (by simp) (.other (by simp) value)

end

/-! ## Reading a text -/

/-- **A text is read as the tree that it spells.**  The grammar does not mention the scanner or the
builder, so this is all that has to be known about either. -/
theorem ofText?_eq_some_iff {s : Gapped} {t : Tree} : ofText? s = some t ↔ t.IsSpelledBy s := by
  have apart : Apart t.tokens := by
    have alone := apart_tokens t .nil (by simp [Ends])
    rwa [List.append_nil] at alone
  constructor
  · intro read
    obtain ⟨ts, tokens, built⟩ := Option.bind_eq_some_iff.mp read
    rw [ofTokens?_eq_some_iff] at built
    subst built
    exact (tokens?_eq_some_iff apart).mp tokens
  · intro spelled
    have tokens := (tokens?_eq_some_iff apart).mpr spelled
    rw [ofText?, tokens]
    exact ofTokens?_tokens t

/-- A text spells one tree at most. -/
theorem IsSpelledBy.unique {s : Gapped} {t u : Tree} (first : t.IsSpelledBy s)
    (second : u.IsSpelledBy s) : t = u := by
  rw [← ofText?_eq_some_iff] at first second
  exact Option.some.inj (first.symm.trans second)

/-- **A text is not read exactly when it spells no tree.** -/
theorem ofText?_eq_none_iff {s : Gapped} :
    ofText? s = none ↔ ∀ t : Tree, ¬t.IsSpelledBy s := by
  rw [Option.eq_none_iff_forall_ne_some]
  exact forall_congr' fun t => not_congr ofText?_eq_some_iff

end DaemonWatch.Json.Tree
