/-
  The format of the configuration file.

  1. **Specification.**  `Config.IsSpelledBy` says which trees spell which configuration: each field
     comes to the value that is given for it, or else to its default.  `Config.IsFaulty` lists what
     can be wrong with a tree, down to the fields of its accounts.  The two do not refer to each
     other.

  2. **Accounts, then configurations.**  What is read is what is spelled
     (`Account.ofTree?_eq_some_iff`, `Config.ofTree?_eq_some_iff`), field by field.  Nothing is read
     exactly when the tree is faulty (`Account.ofTree?_eq_none_iff`, `Config.ofTree?_eq_none_iff`):
     where a field is not read, the value that is given for it is wrong, or it is missing and has no
     default.

  3. **Rearranged trees** are read alike (`Config.ofTree?_rearranged`), by the same lemma for the
     accounts and for the configuration around them.  The accounts of a list may be rearranged in
     turn, which is where values are alike without being the same (`Config.AccountsRearranged`).

  4. **Bridge to files.**  With the grammar of JSON these settle what a file of any text gives
     (`Config.ofText?_eq_some_iff`, `Config.ofText?_eq_none_iff`), and `config_file_format` puts
     them together, with the defaults that the program starts with when the file is faulty.
-/
import DaemonWatch.Proofs.ConfigText
import DaemonWatch.Proofs.JsonGrammar
import DaemonWatch.Proofs.RecordForms

namespace DaemonWatch

open Text

/-! ## Accounts -/

namespace Account

/-- That fields give an account: the domain id has to be given, and what else is not
given is empty. -/
structure IsGivenBy (a : Account) (fields : List (String × Json.Tree)) : Prop where
  domainId : Json.Record.Given fields "domain_id" Json.Tree.IsText none a.domainId
  serverUrl : Json.Record.Given fields "server_url" Json.Tree.IsText (some "") a.serverUrl
  username : Json.Record.Given fields "username" Json.Tree.IsText (some "") a.username

/-- That a tree spells an account: it spells fields, as an object or as an array, and
these give it. -/
def IsSpelledBy (a : Account) (t : Json.Tree) : Prop :=
  ∃ fields, Json.Record.Spells fieldNames t fields ∧ a.IsGivenBy fields

/-- That a tree is an array that spells accounts one by one. -/
def AreListedBy (as : List Account) (t : Json.Tree) : Prop :=
  t.IsList (fun item a => IsSpelledBy a item) as

/-- What can be wrong with a tree that should spell an account: it is no record at all, a field
holds something other than a string, or the domain id is not given. -/
inductive IsFaulty (t : Json.Tree) : Prop
  | misfits (misfits : Json.Record.Misfits fieldNames t)
  | noText {name : String} {v : Json.Tree} (gives : Json.Record.Gives fieldNames t name v)
      (noText : ∀ s, ¬v.IsText s)
  | noDomain (lacks : ∀ v, ¬Json.Record.Gives fieldNames t "domain_id" v)

theorem nodup_fieldNames : fieldNames.Nodup := by decide

/-- **An account is read from just the trees that spell it.**  The fields of a tree are the same for
both sides, and each of the three is read as what it comes to. -/
theorem ofTree?_eq_some_iff (t : Json.Tree) (a : Account) :
    ofTree? t = some a ↔ a.IsSpelledBy t := by
  have text := Json.Tree.string?_eq_some_iff
  simp only [ofTree?, Option.bind_eq_bind, Option.bind_eq_some_iff, Option.pure_def,
    Option.some.injEq, Json.Record.present?_eq_some_iff]
  constructor
  · rintro ⟨fields, spells, domainId, domainRead, serverUrl, serverRead, username, userRead, rfl⟩
    have once := spells.nodup nodup_fieldNames
    refine ⟨fields, spells, ?_, ?_, ?_⟩
    · exact (Json.Record.field?_eq_some_iff_given once text).mp domainRead
    · exact (Json.Record.field?_eq_some_iff_given once text).mp serverRead
    · exact (Json.Record.field?_eq_some_iff_given once text).mp userRead
  · rintro ⟨fields, spells, given⟩
    have once := spells.nodup nodup_fieldNames
    refine ⟨fields, spells, a.domainId, ?_, a.serverUrl, ?_, a.username, ?_, rfl⟩
    · exact (Json.Record.field?_eq_some_iff_given once text).mpr given.domainId
    · exact (Json.Record.field?_eq_some_iff_given once text).mpr given.serverUrl
    · exact (Json.Record.field?_eq_some_iff_given once text).mpr given.username

/-- A tree that spells an account is not faulty.  Each fault is about a field that the tree mentions
or lacks, and what an account is given by is among the fields that the tree mentions. -/
theorem IsSpelledBy.not_isFaulty {t : Json.Tree} {a : Account} (spelled : a.IsSpelledBy t) :
    ¬IsFaulty t := by
  obtain ⟨fields, spells, given⟩ := spelled
  have once := spells.nodup nodup_fieldNames
  rintro (misfits | ⟨gives, noText⟩ | lacks)
  · exact Json.Record.exists_spells_iff.mp ⟨fields, spells⟩ misfits
  · have mem := spells.gives_iff.mp gives
    have known := gives.known
    simp only [fieldNames, List.mem_cons, List.not_mem_nil, or_false] at known
    rcases known with rfl | rfl | rfl
    · exact noText _ (given.domainId.spelled once mem)
    · exact noText _ (given.serverUrl.spelled once mem)
    · exact noText _ (given.username.spelled once mem)
  · cases given.domainId with
    | given mem isText => exact lacks _ (spells.gives_iff.mpr mem)

/-- **No account is read from just the trees that are faulty.**  Where none is read, one of the
three fields is not, or the tree is no record; each of these is a fault.  Conversely a faulty tree
spells none. -/
theorem ofTree?_eq_none_iff {t : Json.Tree} : ofTree? t = none ↔ IsFaulty t := by
  constructor
  · intro unread
    by_contra sound
    obtain ⟨fields, spells⟩ : ∃ fields, Json.Record.Spells fieldNames t fields :=
      Json.Record.exists_spells_iff.mpr fun misfits => sound (.misfits misfits)
    have once := spells.nodup nodup_fieldNames
    -- A field that is not read is given as something else than a text, or is the missing domain id.
    have field (name : String) (default : Option String)
        (required : default = none → name = "domain_id") :
        ∃ v, Json.Record.field? fields name default Json.Tree.string? = some v := by
      rw [← Option.ne_none_iff_exists']
      intro fieldUnread
      rcases Json.Record.field?_eq_none once fieldUnread with
        ⟨v, mem, noText⟩ | ⟨noDefault, absent⟩
      · have isNoText := Json.Tree.not_spelled Json.Tree.string?_eq_some_iff noText
        exact sound (.noText (spells.gives_iff.mpr mem) isNoText)
      · rw [required noDefault] at absent
        exact sound (.noDomain fun v gives => absent v (spells.gives_iff.mp gives))
    obtain ⟨domainId, domainRead⟩ := field "domain_id" none fun _ => rfl
    obtain ⟨serverUrl, serverRead⟩ := field "server_url" (some "") (by simp)
    obtain ⟨username, userRead⟩ := field "username" (some "") (by simp)
    simp [ofTree?, Json.Record.present?_eq_some_iff.mpr spells, domainRead, serverRead, userRead]
      at unread
  · intro faulty
    by_contra read
    obtain ⟨a, read⟩ := Option.ne_none_iff_exists'.mp read
    exact ((ofTree?_eq_some_iff t _).mp read).not_isFaulty faulty

/-- That two trees spell one account: as objects with their members in another order, among others
that are not looked at, or one of them as an array. -/
def Rearranged (t t' : Json.Tree) : Prop :=
  Json.Record.Rearranged fieldNames (fun _ _ _ => False) t t'

theorem Rearranged.isSpelledBy_iff {t t' : Json.Tree} (rearranged : Rearranged t t')
    (a : Account) : a.IsSpelledBy t ↔ a.IsSpelledBy t' := by
  refine Json.Record.Rearranged.iff nodup_fieldNames ?_ ?_ rearranged
  · intro fields fields' perm given
    exact ⟨given.domainId.permuted perm, given.serverUrl.permuted perm,
      given.username.permuted perm⟩
  · intro first last name v v' alike
    exact alike.elim

end Account

/-! ## Configurations -/

namespace Config

/-- That fields give a configuration: what is not given is as in the default configuration. -/
structure IsGivenBy (c : Config) (fields : List (String × Json.Tree)) : Prop where
  rpcUrl : Json.Record.Given fields "rpc_url" Json.Tree.IsText (some ({} : Config).rpcUrl) c.rpcUrl
  pollIntervalMs : Json.Record.Given fields "poll_interval_ms" Json.Tree.IsUInt64
    (some ({} : Config).pollIntervalMs) c.pollIntervalMs
  requestTimeoutMs : Json.Record.Given fields "request_timeout_ms" Json.Tree.IsUInt64
    (some ({} : Config).requestTimeoutMs) c.requestTimeoutMs
  notify : Json.Record.Given fields "notify" Json.Tree.IsBool (some ({} : Config).notify) c.notify
  hideWindowsPaths : Json.Record.Given fields "hide_windows_incompatible_path_msg"
    Json.Tree.IsBool (some ({} : Config).hideWindowsPaths) c.hideWindowsPaths
  accounts : Json.Record.Given fields "accounts" (fun t as => Account.AreListedBy as t)
    (some ({} : Config).accounts) c.accounts

/-- That a tree spells a configuration: it spells fields, as an object or as an array, and these
give it. -/
def IsSpelledBy (c : Config) (t : Json.Tree) : Prop :=
  ∃ fields, Json.Record.Spells fieldNames t fields ∧ c.IsGivenBy fields

/-- What can be wrong with the value of a field, by its name: text, times, flags and accounts are
spelled in different ways.  An array of accounts is wrong when any of its accounts is faulty. -/
inductive IsWrong (name : String) (t : Json.Tree) : Prop
  | noText (isText : name = "rpc_url") (noText : ∀ s, ¬t.IsText s)
  | noTime (isTime : name = "poll_interval_ms" ∨ name = "request_timeout_ms")
      (noTime : ∀ n, ¬t.IsUInt64 n)
  | noFlag (isFlag : name = "notify" ∨ name = "hide_windows_incompatible_path_msg")
      (noFlag : ∀ b, ¬t.IsBool b)
  | noArray (isAccounts : name = "accounts") (noArray : ∀ items, t ≠ .array items)
  | account {items : List Json.Tree} {item : Json.Tree} (isAccounts : name = "accounts")
      (array : t = .array items) (mem : item ∈ items) (faulty : Account.IsFaulty item)

/-- No field may be `null`. -/
theorem IsWrong.null {name : String} (known : name ∈ fieldNames) : IsWrong name .null := by
  simp only [fieldNames, List.mem_cons, List.not_mem_nil, or_false] at known
  have noText (s : String) : ¬Json.Tree.null.IsText s := by rintro ⟨⟩
  have noTime (n : Nat) : ¬Json.Tree.null.IsUInt64 n := by rintro ⟨⟩
  have noFlag (b : Bool) : ¬Json.Tree.null.IsBool b := by rintro ⟨⟩
  rcases known with rfl | rfl | rfl | rfl | rfl | rfl
  · exact .noText rfl noText
  · exact .noTime (.inl rfl) noTime
  · exact .noTime (.inr rfl) noTime
  · exact .noFlag (.inl rfl) noFlag
  · exact .noFlag (.inr rfl) noFlag
  · exact .noArray rfl (by simp)

/-- What can be wrong with a tree that should spell a configuration: it is no record at all, or the
value of a field is wrong.  Nothing is wrong with a field that is missing. -/
inductive IsFaulty (t : Json.Tree) : Prop
  | misfits (misfits : Json.Record.Misfits fieldNames t)
  | wrong {name : String} {v : Json.Tree} (gives : Json.Record.Gives fieldNames t name v)
      (wrong : IsWrong name v)

theorem nodup_fieldNames : fieldNames.Nodup := by decide

theorem accounts?_eq_some_iff (t : Json.Tree) (as : List Account) :
    t.list? Account.ofTree? = some as ↔ Account.AreListedBy as t :=
  Json.Tree.list?_eq_some_iff Account.ofTree?_eq_some_iff t as

/-- **A configuration is read from just the trees that spell it.**  It goes as for an account, field
by field; the field of accounts is read as a list of what was shown for a single one. -/
theorem ofTree?_eq_some_iff (t : Json.Tree) (c : Config) :
    ofTree? t = some c ↔ c.IsSpelledBy t := by
  have text := Json.Tree.string?_eq_some_iff
  have time := Json.Tree.uint64?_eq_some_iff
  have flag := Json.Tree.bool?_eq_some_iff
  simp only [ofTree?, Option.bind_eq_bind, Option.bind_eq_some_iff, Option.pure_def,
    Option.some.injEq, Json.Record.present?_eq_some_iff]
  constructor
  · rintro ⟨fields, spells, rpcUrl, url, interval, poll, timeout, request, notify, note, hide,
      paths, accounts, listed, rfl⟩
    have once := spells.nodup nodup_fieldNames
    refine ⟨fields, spells, ?_, ?_, ?_, ?_, ?_, ?_⟩
    · exact (Json.Record.field?_eq_some_iff_given once text).mp url
    · exact (Json.Record.field?_eq_some_iff_given once time).mp poll
    · exact (Json.Record.field?_eq_some_iff_given once time).mp request
    · exact (Json.Record.field?_eq_some_iff_given once flag).mp note
    · exact (Json.Record.field?_eq_some_iff_given once flag).mp paths
    · exact (Json.Record.field?_eq_some_iff_given once accounts?_eq_some_iff).mp listed
  · rintro ⟨fields, spells, given⟩
    have once := spells.nodup nodup_fieldNames
    refine ⟨fields, spells, c.rpcUrl, ?_, c.pollIntervalMs, ?_, c.requestTimeoutMs, ?_, c.notify,
      ?_, c.hideWindowsPaths, ?_, c.accounts, ?_, rfl⟩
    · exact (Json.Record.field?_eq_some_iff_given once text).mpr given.rpcUrl
    · exact (Json.Record.field?_eq_some_iff_given once time).mpr given.pollIntervalMs
    · exact (Json.Record.field?_eq_some_iff_given once time).mpr given.requestTimeoutMs
    · exact (Json.Record.field?_eq_some_iff_given once flag).mpr given.notify
    · exact (Json.Record.field?_eq_some_iff_given once flag).mpr given.hideWindowsPaths
    · exact (Json.Record.field?_eq_some_iff_given once accounts?_eq_some_iff).mpr given.accounts

/-- A tree that spells a configuration is not faulty. -/
theorem IsSpelledBy.not_isFaulty {t : Json.Tree} {c : Config} (spelled : c.IsSpelledBy t) :
    ¬IsFaulty t := by
  obtain ⟨fields, spells, given⟩ := spelled
  have once := spells.nodup nodup_fieldNames
  rintro (misfits | ⟨gives, wrong⟩)
  · exact Json.Record.exists_spells_iff.mp ⟨fields, spells⟩ misfits
  have mem := spells.gives_iff.mp gives
  cases wrong with
  | noText isText noText =>
    subst isText
    exact noText _ (given.rpcUrl.spelled once mem)
  | noTime isTime noTime =>
    rcases isTime with rfl | rfl
    · exact noTime _ (given.pollIntervalMs.spelled once mem)
    · exact noTime _ (given.requestTimeoutMs.spelled once mem)
  | noFlag isFlag noFlag =>
    rcases isFlag with rfl | rfl
    · exact noFlag _ (given.notify.spelled once mem)
    · exact noFlag _ (given.hideWindowsPaths.spelled once mem)
  | noArray isAccounts noArray =>
    subst isAccounts
    cases given.accounts.spelled once mem with
    | array all => exact noArray _ rfl
  | @account items item isAccounts array memItem faulty =>
    subst isAccounts array
    cases given.accounts.spelled once mem with
    | array all =>
      have sound : List.Forall₂ (fun item a => ¬Account.IsFaulty item ∧ Account.IsSpelledBy a item)
          items c.accounts := all.imp fun item a spelled => ⟨spelled.not_isFaulty, spelled⟩
      exact ((List.forall₂_and_left _ _).mp sound).1 item memItem faulty

/-- **No configuration is read from just the trees that are faulty.** -/
theorem ofTree?_eq_none_iff {t : Json.Tree} : ofTree? t = none ↔ IsFaulty t := by
  constructor
  · intro unread
    by_contra sound
    obtain ⟨fields, spells⟩ : ∃ fields, Json.Record.Spells fieldNames t fields :=
      Json.Record.exists_spells_iff.mpr fun misfits => sound (.misfits misfits)
    have once := spells.nodup nodup_fieldNames
    -- As every field has a default, one that is not read has a wrong value.
    have field {α : Type} (name : String) (default : α) {read : Json.Tree → Option α}
        (wrong : ∀ v, read v = none → IsWrong name v) :
        ∃ x, Json.Record.field? fields name (some default) read = some x := by
      rw [← Option.ne_none_iff_exists']
      intro fieldUnread
      rcases Json.Record.field?_eq_none once fieldUnread with ⟨v, mem, none⟩ | ⟨noDefault, -⟩
      · exact sound (.wrong (spells.gives_iff.mpr mem) (wrong v none))
      · cases noDefault
    have text {v : Json.Tree} := @Json.Tree.not_spelled _ _ _ Json.Tree.string?_eq_some_iff v
    have time {v : Json.Tree} := @Json.Tree.not_spelled _ _ _ Json.Tree.uint64?_eq_some_iff v
    have flag {v : Json.Tree} := @Json.Tree.not_spelled _ _ _ Json.Tree.bool?_eq_some_iff v
    have accounts (v : Json.Tree) (none : v.list? Account.ofTree? = none) :
        IsWrong "accounts" v := by
      rcases Json.Tree.list?_eq_none none with noArray | ⟨items, item, array, mem, none⟩
      · exact .noArray rfl noArray
      · exact .account rfl array mem (Account.ofTree?_eq_none_iff.mp none)
    obtain ⟨rpcUrl, url⟩ :=
      field "rpc_url" ({} : Config).rpcUrl fun v none => .noText rfl (text none)
    obtain ⟨interval, poll⟩ :=
      field "poll_interval_ms" ({} : Config).pollIntervalMs
        fun v none => .noTime (.inl rfl) (time none)
    obtain ⟨timeout, request⟩ :=
      field "request_timeout_ms" ({} : Config).requestTimeoutMs
        fun v none => .noTime (.inr rfl) (time none)
    obtain ⟨notify, note⟩ :=
      field "notify" ({} : Config).notify fun v none => .noFlag (.inl rfl) (flag none)
    obtain ⟨hide, paths⟩ :=
      field "hide_windows_incompatible_path_msg" ({} : Config).hideWindowsPaths
        fun v none => .noFlag (.inr rfl) (flag none)
    obtain ⟨listed, list⟩ := field "accounts" ({} : Config).accounts accounts
    simp [ofTree?, Json.Record.present?_eq_some_iff.mpr spells, url, poll, request, note, paths,
      list] at unread
  · intro faulty
    by_contra read
    obtain ⟨c, read⟩ := Option.ne_none_iff_exists'.mp read
    exact ((ofTree?_eq_some_iff t _).mp read).not_isFaulty faulty

/-! ## Trees of one configuration -/

/-- That two values of a field differ only in how the accounts of a list are arranged: each account
is rearranged in its place.  The order of the accounts is not touched, since it matters which comes
first. -/
inductive AccountsRearranged : String → Json.Tree → Json.Tree → Prop
  | accounts {items items' : List Json.Tree} (all : List.Forall₂ Account.Rearranged items items') :
      AccountsRearranged "accounts" (.array items) (.array items')

/-- That two trees spell one configuration: as objects with their members in another order, among
others that are not looked at, or one of them as an array, with accounts that are rearranged in
turn. -/
def Rearranged (t t' : Json.Tree) : Prop :=
  Json.Record.Rearranged fieldNames AccountsRearranged t t'

/-- Rearranged accounts spell the same list. -/
theorem areListedBy_iff {items items' : List Json.Tree} {as : List Account}
    (all : List.Forall₂ Account.Rearranged items items') :
    Account.AreListedBy as (.array items) ↔ Account.AreListedBy as (.array items') := by
  rw [← accounts?_eq_some_iff, ← accounts?_eq_some_iff, Json.Tree.list?, Json.Tree.list?]
  have same : items.mapM Account.ofTree? = items'.mapM Account.ofTree? := by
    induction all with
    | nil => rfl
    | @cons item item' items items' first _ ih =>
      have one : Account.ofTree? item = Account.ofTree? item' := by
        refine Option.ext fun a => ?_
        rw [Account.ofTree?_eq_some_iff, Account.ofTree?_eq_some_iff]
        exact first.isSpelledBy_iff a
      rw [List.mapM_cons, List.mapM_cons, one, ih]
  rw [same]

/-- Another list of accounts that spells the same makes no difference. -/
theorem IsGivenBy.replaced {c : Config} {first last : List (String × Json.Tree)}
    {t t' : Json.Tree}
    (same : ∀ as, Account.AreListedBy as t → Account.AreListedBy as t')
    (given : c.IsGivenBy (first ++ ("accounts", t) :: last)) :
    c.IsGivenBy (first ++ ("accounts", t') :: last) where
  rpcUrl := given.rpcUrl.replaced (by simp)
  pollIntervalMs := given.pollIntervalMs.replaced (by simp)
  requestTimeoutMs := given.requestTimeoutMs.replaced (by simp)
  notify := given.notify.replaced (by simp)
  hideWindowsPaths := given.hideWindowsPaths.replaced (by simp)
  accounts := given.accounts.replaced fun _ => same

/-- **Trees of one configuration are read alike**: both give the same configuration, or neither
gives one. -/
theorem ofTree?_rearranged {t t' : Json.Tree} (rearranged : Rearranged t t') :
    ofTree? t = ofTree? t' := by
  refine Option.ext fun c => ?_
  rw [ofTree?_eq_some_iff, ofTree?_eq_some_iff]
  refine Json.Record.Rearranged.iff nodup_fieldNames ?_ ?_ rearranged
  · intro fields fields' perm given
    exact ⟨given.rpcUrl.permuted perm, given.pollIntervalMs.permuted perm,
      given.requestTimeoutMs.permuted perm, given.notify.permuted perm,
      given.hideWindowsPaths.permuted perm, given.accounts.permuted perm⟩
  · intro first last name v v' alike
    cases alike with
    | accounts all =>
      constructor
      · exact fun given => given.replaced fun as => (areListedBy_iff all).mp
      · exact fun given => given.replaced fun as => (areListedBy_iff all).mpr

/-! ## Files -/

/-- That a text spells no configuration: it has a fault in its syntax, or it spells
a faulty tree. -/
def IsFaultyText (s : Gapped) : Prop :=
  (∀ t : Json.Tree, ¬t.IsSpelledBy s) ∨ ∃ t : Json.Tree, t.IsSpelledBy s ∧ IsFaulty t

/-- A configuration is read from a text that spells a tree that spells it. -/
theorem ofText?_eq_some_iff {s : Gapped} {c : Config} :
    ofText? s = some c ↔ ∃ t : Json.Tree, t.IsSpelledBy s ∧ c.IsSpelledBy t := by
  simp only [ofText?, Option.bind_eq_bind, Option.bind_eq_some_iff,
    Json.Tree.ofText?_eq_some_iff, ofTree?_eq_some_iff]

/-- No configuration is read from a text that is faulty. -/
theorem ofText?_eq_none_iff {s : Gapped} : ofText? s = none ↔ IsFaultyText s := by
  cases read : Json.Tree.ofText? s with
  | none =>
    have noTree := Json.Tree.ofText?_eq_none_iff.mp read
    simp only [ofText?, read, Option.bind_eq_bind, Option.bind_none, true_iff]
    exact .inl noTree
  | some t =>
    have spelled := Json.Tree.ofText?_eq_some_iff.mp read
    simp only [ofText?, read, Option.bind_eq_bind, Option.bind_some, ofTree?_eq_none_iff]
    constructor
    · intro faulty
      exact .inr ⟨t, spelled, faulty⟩
    · rintro (noTree | ⟨u, spelled', faulty⟩)
      · exact absurd spelled (noTree t)
      · rwa [spelled.unique spelled']

/-- Texts that spell rearranged trees are read alike. -/
theorem ofText?_rearranged {s s' : Gapped} {t t' : Json.Tree} (spelled : t.IsSpelledBy s)
    (spelled' : t'.IsSpelledBy s') (rearranged : Rearranged t t') : ofText? s' = ofText? s := by
  rw [ofText?, ofText?, Json.Tree.ofText?_eq_some_iff.mpr spelled,
    Json.Tree.ofText?_eq_some_iff.mpr spelled']
  exact (ofTree?_rearranged rearranged).symm

/-- What files give depends on what is read from their texts alone. -/
theorem ofFile_congr {s s' : String} (same : ofText? (gapped s') = ofText? (gapped s)) :
    ofFile (.bytes (Utf8.encode s')) = ofFile (.bytes (Utf8.encode s)) := by
  rw [ofFile_encode, ofFile_encode, same]

end Config

/-- **The format of the configuration file.**  A file with a text that is not faulty gives a
configuration: the one in which each field comes to the value that is given for it, or else to its
default.  A file with a faulty text is an error, and the program then starts with the defaults.  A
text that spells the configuration with its members in another order, among others that are not
looked at, or as an array of its first fields, gives the same as the text does. -/
theorem config_file_format (s : String) :
    (¬Config.IsFaultyText (gapped s) →
      ∃ c, Config.ofFile (.bytes (Utf8.encode s)) = .ok c) ∧
    (∀ c, Config.ofFile (.bytes (Utf8.encode s)) = .ok c ↔
      ∃ t : Json.Tree, t.IsSpelledBy (gapped s) ∧ c.IsSpelledBy t) ∧
    (Config.IsFaultyText (gapped s) →
      Config.ofFile (.bytes (Utf8.encode s)) = .error (.config "Failed to parse config.json") ∧
        ∀ (disk : String → FileContent) (custom : Option String) (applicationFolder : String),
          disk (Config.path custom applicationFolder) = .bytes (Utf8.encode s) →
          Config.load disk custom applicationFolder = {}) ∧
    (∀ (s' : String) (t t' : Json.Tree), t.IsSpelledBy (gapped s) → t'.IsSpelledBy (gapped s') →
      Config.Rearranged t t' →
      Config.ofFile (.bytes (Utf8.encode s')) = Config.ofFile (.bytes (Utf8.encode s))) ∧
    ∀ (s' : String) (values : List Json.Tree) (members : List (List Json.Piece × Json.Tree)),
      values.length ≤ 6 → Json.Record.Keyed members (Config.fieldNames.zip values) →
      (Json.Tree.array values).IsSpelledBy (gapped s) →
      (Json.Tree.object members).IsSpelledBy (gapped s') →
      Config.ofFile (.bytes (Utf8.encode s')) = Config.ofFile (.bytes (Utf8.encode s)) := by
  refine ⟨?_, ?_, ?_, ?_, ?_⟩
  · intro sound
    rw [← Config.ofText?_eq_none_iff] at sound
    obtain ⟨c, read⟩ := Option.ne_none_iff_exists'.mp sound
    exact ⟨c, by rw [Config.ofFile_encode, read]⟩
  · intro c
    rw [Config.ofFile_encode, ← Config.ofText?_eq_some_iff]
    cases Config.ofText? (gapped s) <;> simp
  · intro faulty
    have error : Config.ofFile (.bytes (Utf8.encode s)) =
        .error (.config "Failed to parse config.json") := by
      rw [Config.ofFile_encode, Config.ofText?_eq_none_iff.mpr faulty]
    refine ⟨error, ?_⟩
    intro disk custom applicationFolder there
    rw [Config.load, there, error]
  · intro s' t t' spelled spelled' rearranged
    exact Config.ofFile_congr (Config.ofText?_rearranged spelled spelled' rearranged)
  · intro s' values members fits keys spelled spelled'
    exact Config.ofFile_congr (Config.ofText?_rearranged spelled spelled' (.listed fits keys))

/-- A text, the same with its members in another order and an account with one more of them, an
array and the object of its fields, and a text with an account that lacks its domain id. -/
theorem config_file_format_rearranged :
    let plain := "\x7b\"notify\":false,\"accounts\":[\x7b\"domain_id\":\"d\"\x7d]\x7d"
    let shuffled := "\x7b\"accounts\":[\x7b\"x\":[],\"domain_id\":\"d\"\x7d],\"notify\":false\x7d"
    let listed := "[\"a\", 5]"
    let named := "\x7b\"rpc_url\":\"a\", \"poll_interval_ms\":5\x7d"
    let faulty := "\x7b\"notify\":false,\"accounts\":[[\"d\"],\x7b\x7d]\x7d"
    (∃ c, Config.ofFile (.bytes (Utf8.encode plain)) = .ok c) ∧
      Config.ofFile (.bytes (Utf8.encode shuffled)) = Config.ofFile (.bytes (Utf8.encode plain)) ∧
      Config.ofFile (.bytes (Utf8.encode named)) = Config.ofFile (.bytes (Utf8.encode listed)) ∧
      Config.load (fun _ => .bytes (Utf8.encode faulty)) none "" = {} := by
  dsimp only
  refine ⟨?_, ?_, ?_, ?_⟩
  · refine (config_file_format _).1 ?_
    rw [← Config.ofText?_eq_none_iff]
    decide
  · have account : Account.Rearranged (Json.Record.objectOf [("domain_id", .text (Json.pieces "d"))])
        (Json.Record.objectOf [("x", .array []), ("domain_id", .text (Json.pieces "d"))]) :=
      @Json.Record.Rearranged.inserted _ _ [] _ _ "x" _ rfl (by decide)
    have replaced := @Json.Record.Rearranged.replaced Config.fieldNames Config.AccountsRearranged
      [(Json.pieces "notify", .bool false)] [] (Json.pieces "accounts") _ _ _ rfl
      (.accounts (.cons account .nil))
    refine (config_file_format _).2.2.2.1 _ _ _ ?plain ?shuffled
      (replaced.trans (.permuted (.swap _ _ [])))
    case plain => exact Json.Tree.ofText?_eq_some_iff.mp rfl
    case shuffled => exact Json.Tree.ofText?_eq_some_iff.mp rfl
  · refine (config_file_format _).2.2.2.2 _
      [.text (Json.pieces "a"), .number ⟨false, [5], [], none⟩]
      [(Json.pieces "rpc_url", .text (Json.pieces "a")),
       (Json.pieces "poll_interval_ms", .number ⟨false, [5], [], none⟩)] ?fits ?keys ?listed ?named
    case fits => decide
    case keys => exact .cons ⟨rfl, rfl⟩ (.cons ⟨rfl, rfl⟩ .nil)
    case listed => exact Json.Tree.ofText?_eq_some_iff.mp rfl
    case named => exact Json.Tree.ofText?_eq_some_iff.mp rfl
  · refine ((config_file_format _).2.2.1 ?_).2 _ none "" rfl
    rw [← Config.ofText?_eq_none_iff]
    decide

end DaemonWatch
