/-
  The text of a configuration.

  1. **Records as they are written** (`Json.Record.objectOf`): an object that has all fields, each
     of them once, in the order of the names.  Such an object gives just these fields
     (`Json.Record.present?_objectOf`), so nothing falls back to its default.

  2. **Trees** (`Account.tree`, `Config.tree`).  The text of a configuration spells its tree
     (`Config.tree?_toJson`), and the tree reads as the configuration (`Config.ofTree?_tree`), if
     its two times are within the range of their type.  That is the only condition: any string is
     read back, with whatever characters and escapes.

  3. **Result** (`config_read_back`).  A file with that text gives the configuration back, and so
     different configurations have different texts.
-/
import DaemonWatch.Config
import DaemonWatch.Proofs.JsonRecord
import DaemonWatch.Proofs.JsonText
import DaemonWatch.Proofs.Utf8

namespace DaemonWatch

open Text

/-! ## Records as they are written -/

namespace Json

namespace Record

/-- The object that spells fields plainly, in their order. -/
def objectOf (fields : List (String × Tree)) : Tree :=
  .object (fields.map fun f => (pieces f.1, f.2))

/-- An object of fields with names of the record, each but once, gives just these. -/
theorem present?_objectOf {names : List String} {fields : List (String × Tree)}
    (known : ∀ f ∈ fields, f.1 ∈ names) (once : (fields.map Prod.fst).Nodup) :
    present? names (objectOf fields) = some fields := by
  have keyed : (fields.map fun f => (pieces f.1, f.2)).mapM
      (fun m => (Piece.string? m.1).map (·, m.2)) = some fields := by
    rw [mapM_eq_some_iff, List.forall₂_map_left_iff, List.forall₂_same]
    intro f _
    rw [string?_pieces, Option.map_some]
  have all : fields.filter (fun m => names.contains m.1) = fields := by
    rw [List.filter_eq_self]
    intro f mem
    rw [List.contains_eq_mem, decide_eq_true (known f mem)]
  simp only [present?, objectOf, keyed, Option.bind_eq_bind, Option.bind_some, all, if_pos once]

end Record

/-- The literal of an unsigned integer of 64 bits is read as that integer. -/
theorem Tree.uint64?_ofInt {n : Nat} (bound : n ≤ maxUInt64) :
    Tree.uint64? (.number (.ofInt n)) = some n := by
  have kept : IsKept n := by
    constructor
    · simp only [minInt64]
      omega
    · exact Int.ofNat_le.mpr bound
  simp [Tree.uint64?, int?_ofInt kept]

end Json

/-! ## Accounts -/

namespace Account

/-- The tree that the text of an account spells. -/
def tree (a : Account) : Json.Tree :=
  Json.Record.objectOf
    [("domain_id", .text (Json.pieces a.domainId)), ("server_url", .text (Json.pieces a.serverUrl)),
     ("username", .text (Json.pieces a.username))]

theorem tree?_toJson (a : Account) : a.toJson.tree? = some a.tree := rfl

/-- An account is read back from its tree. -/
theorem ofTree?_tree (a : Account) : ofTree? a.tree = some a := by
  refine Option.bind_eq_some_iff.mpr
    ⟨_, Json.Record.present?_objectOf (by simp [fieldNames]) (by simp), ?_⟩
  refine Option.bind_eq_some_iff.mpr ⟨a.domainId, Json.string?_pieces a.domainId, ?_⟩
  refine Option.bind_eq_some_iff.mpr ⟨a.serverUrl, Json.string?_pieces a.serverUrl, ?_⟩
  exact Option.bind_eq_some_iff.mpr ⟨a.username, Json.string?_pieces a.username, rfl⟩

end Account

/-! ## Configurations -/

namespace Config

/-- The tree that the text of a configuration spells. -/
def tree (c : Config) : Json.Tree :=
  Json.Record.objectOf
    [("rpc_url", .text (Json.pieces c.rpcUrl)),
     ("poll_interval_ms", .number (.ofInt c.pollIntervalMs)),
     ("request_timeout_ms", .number (.ofInt c.requestTimeoutMs)), ("notify", .bool c.notify),
     ("hide_windows_incompatible_path_msg", .bool c.hideWindowsPaths),
     ("accounts", .array (c.accounts.map Account.tree))]

theorem tree?_toJson (c : Config) : c.toJson.tree? = some c.tree := by
  have accounts : Json.itemTrees? (c.accounts.map Account.toJson) =
      some (c.accounts.map Account.tree) := by
    induction c.accounts with
    | nil => rfl
    | cons a as ih => simp [Json.itemTrees?, Account.tree?_toJson, ih]
  simp [toJson, tree, Json.tree?, Json.memberTrees?, Json.ofInt, accounts, Json.Record.objectOf]

/-- That the times of a configuration are unsigned integers of 64 bits. -/
structure IsInRange (c : Config) : Prop where
  pollInterval : c.pollIntervalMs ≤ Json.maxUInt64
  requestTimeout : c.requestTimeoutMs ≤ Json.maxUInt64

/-- A configuration is read back from its tree. -/
theorem ofTree?_tree {c : Config} (range : c.IsInRange) : ofTree? c.tree = some c := by
  have accounts : (c.accounts.map Account.tree).mapM Account.ofTree? = some c.accounts := by
    rw [Json.Record.mapM_eq_some_iff, List.forall₂_map_left_iff, List.forall₂_same]
    intro a _
    exact a.ofTree?_tree
  -- Each field is looked up under its name and read.
  refine Option.bind_eq_some_iff.mpr
    ⟨_, Json.Record.present?_objectOf (by simp [fieldNames]) (by simp), ?_⟩
  refine Option.bind_eq_some_iff.mpr ⟨c.rpcUrl, Json.string?_pieces c.rpcUrl, ?_⟩
  refine Option.bind_eq_some_iff.mpr
    ⟨c.pollIntervalMs, Json.Tree.uint64?_ofInt range.pollInterval, ?_⟩
  refine Option.bind_eq_some_iff.mpr
    ⟨c.requestTimeoutMs, Json.Tree.uint64?_ofInt range.requestTimeout, ?_⟩
  refine Option.bind_eq_some_iff.mpr ⟨c.notify, rfl, ?_⟩
  refine Option.bind_eq_some_iff.mpr ⟨c.hideWindowsPaths, rfl, ?_⟩
  exact Option.bind_eq_some_iff.mpr ⟨c.accounts, accounts, rfl⟩

/-- A file that holds a string gives what the string spells. -/
theorem ofFile_encode (s : String) :
    ofFile (.bytes (Utf8.encode s)) =
      match ofText? (gapped s) with
      | some c => .ok c
      | none => .error (.config "Failed to parse config.json") := by
  rw [ofFile, textOf?, Utf8.whole?_decode_encode]
  rfl

/-- A configuration is read back from the file that its text is written to. -/
theorem ofFile_encode_text {c : Config} (range : c.IsInRange) :
    ofFile (.bytes (Utf8.encode c.text)) = .ok c := by
  have spelled : Json.Tree.ofText? (gapped c.text) = some c.tree :=
    Json.treeOfText?_print c.tree?_toJson
  have read : ofText? (gapped c.text) = some c := by
    rw [ofText?, spelled]
    exact ofTree?_tree range
  rw [ofFile_encode, read]

end Config

/-- **A configuration is read back from its text.**  A file that the text of a configuration is
written to gives just that configuration, whatever its strings and its accounts are, and so no
other configuration has the same text. -/
theorem config_read_back (c : Config) (range : c.IsInRange) :
    Config.ofFile (.bytes (Utf8.encode c.text)) = .ok c ∧
      ∀ c' : Config, c'.IsInRange → c'.text = c.text → c' = c := by
  have read := Config.ofFile_encode_text range
  refine ⟨read, ?_⟩
  intro c' range' same
  have read' := Config.ofFile_encode_text range'
  rw [same, read] at read'
  exact (Except.ok.inj read').symm

/-- The greatest interval, an address with a quotation mark and control characters, and two
accounts, one with a character beyond 16 bits. -/
theorem config_read_back_escaped :
    let c : Config :=
      { rpcUrl := "\"\\\n\x00\x1f/"
        pollIntervalMs := 0xFFFFFFFFFFFFFFFF
        requestTimeoutMs := 0
        hideWindowsPaths := true
        accounts := [⟨"𝄞", "\\u0000", ""⟩, ⟨"", "é", "\t"⟩] }
    c.IsInRange ∧ Config.ofFile (.bytes (Utf8.encode c.text)) = .ok c := by
  intro c
  have range : c.IsInRange := ⟨by decide, by decide⟩
  exact ⟨range, (config_read_back c range).1⟩

end DaemonWatch
