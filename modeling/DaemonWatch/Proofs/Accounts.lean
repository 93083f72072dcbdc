/-
  Which account a domain gets.

  The list of accounts is searched for the domain id first, and only what is found is looked at for
  a server and a user.  So there are two readings of "the account of a domain":

  1. **The first account listed for the domain, provided that it is complete**
     (`AccountBook.find?_validOnly`).  This is what `AccountBook.find?` yields, for either rule of
     the book, once the result is checked for a server and a user
     (`AccountBook.filter_find?_eq_some_iff`).

  2. **The first complete account listed for the domain** (`AccountBook.find?_cleared`).  This is
     what it would yield if incomplete accounts did not count at all.

  3. **Where they part** (`AccountBook.Hides`): an incomplete account stands first, and a complete
     one for the same domain stands behind it.  In every other list the two agree, and
     `AccountBook.incomplete_entry_hides_later` puts both halves together.

  "First" is said once, by what stands before (`Account.IsFirst`), and searching a list is known
  from that alone (`Account.find?_eq_some_iff`).
-/
import DaemonWatch.Account

namespace DaemonWatch

namespace Account

/-! ## Complete accounts -/

/-- The account names a server and a user. -/
structure IsComplete (a : Account) : Prop where
  server : a.serverUrl ≠ ""
  user : a.username ≠ ""

theorem isValid_iff (a : Account) : a.isValid = true ↔ a.IsComplete := by
  have named (s : String) : (!s.isEmpty) = true ↔ s ≠ "" := by simp
  unfold isValid
  rw [Bool.and_eq_true, named, named]
  constructor
  · intro both
    exact ⟨both.1, both.2⟩
  · intro complete
    exact ⟨complete.server, complete.user⟩

/-! ## The first account of its sort -/

/-- Of the accounts listed, this one has the property, and none before it has.  An account may be
listed more than once: it is first by one of the places where it stands. -/
def IsFirst (accounts : List Account) (property : Account → Prop) (a : Account) : Prop :=
  property a ∧
    ∃ earlier later, accounts = earlier ++ a :: later ∧ ∀ other ∈ earlier, ¬property other

/-- Searching a list yields the first account that passes the test. -/
theorem find?_eq_some_iff (accounts : List Account) (test : Account → Bool) (a : Account) :
    accounts.find? test = some a ↔ IsFirst accounts (fun b => test b = true) a := by
  rw [List.find?_eq_some_iff_append]
  unfold IsFirst
  simp only [Bool.not_eq_true', Bool.not_eq_true]

/-- The account stands first among those listed for the domain. -/
def IsFirstFor (accounts : List Account) (domainId : String) (a : Account) : Prop :=
  IsFirst accounts (fun b => b.domainId = domainId) a

theorem find?_domain_eq_some_iff (accounts : List Account) (domainId : String) (a : Account) :
    (accounts.find? fun b => b.domainId = domainId) = some a ↔
      IsFirstFor accounts domainId a := by
  rw [find?_eq_some_iff]
  unfold IsFirstFor
  simp only [decide_eq_true_eq]

/-- No two accounts stand first. -/
theorem IsFirstFor.unique {accounts : List Account} {domainId : String} {a b : Account}
    (first : IsFirstFor accounts domainId a) (other : IsFirstFor accounts domainId b) : a = b := by
  rw [← find?_domain_eq_some_iff] at first other
  exact Option.some.inj (first.symm.trans other)

end Account

namespace AccountBook

open Account

/-! ## The two readings -/

/-- Whatever the rule of the book, what it yields passes the check for a server and a user just
when it is the first account listed for the domain, and complete. -/
theorem filter_find?_eq_some_iff (book : AccountBook) (domainId : String) (a : Account) :
    (book.find? domainId).filter Account.isValid = some a ↔
      IsFirstFor book.accounts domainId a ∧ a.IsComplete := by
  have once : (book.find? domainId).filter Account.isValid =
      (book.accounts.find? fun b => b.domainId = domainId).filter Account.isValid := by
    unfold find?
    rcases book.rule with _ | _
    · show Option.filter _ (Option.filter _ _) = _
      rw [Option.filter_filter]
      simp only [Bool.and_self]
    · rfl
  rw [once, Option.filter_eq_some_iff, find?_domain_eq_some_iff, isValid_iff]

/-- A book of complete accounts yields the first account listed, if that one is complete. -/
theorem find?_validOnly (accounts : List Account) (domainId : String) (a : Account) :
    (AccountBook.mk .validOnly accounts).find? domainId = some a ↔
      IsFirstFor accounts domainId a ∧ a.IsComplete := by
  show ((accounts.find? fun b => b.domainId = domainId).filter Account.isValid) = some a ↔ _
  rw [Option.filter_eq_some_iff, find?_domain_eq_some_iff, isValid_iff]

/-- With the incomplete accounts taken out of the list, the first complete one is found. -/
theorem find?_cleared (accounts : List Account) (domainId : String) (a : Account) :
    (AccountBook.mk .validOnly (accounts.filter Account.isValid)).find? domainId = some a ↔
      IsFirst accounts (fun b => b.IsComplete ∧ b.domainId = domainId) a := by
  show (((accounts.filter Account.isValid).find? fun b => b.domainId = domainId).filter
    Account.isValid) = some a ↔ _
  rw [Option.filter_eq_some_iff, List.find?_filter, find?_eq_some_iff]
  simp only [decide_eq_true_eq, isValid_iff]
  constructor
  · intro found
    exact found.1
  · intro first
    exact ⟨first, first.1.1⟩

/-- The list without its incomplete accounts has nothing for a domain just when no complete account
is listed for it. -/
theorem find?_cleared_eq_none_iff (accounts : List Account) (domainId : String) :
    (AccountBook.mk .validOnly (accounts.filter Account.isValid)).find? domainId = none ↔
      ∀ a ∈ accounts, a.domainId = domainId → ¬a.IsComplete := by
  rw [Option.eq_none_iff_forall_not_mem]
  constructor
  · intro nothing a listed domain complete
    have found : (accounts.find? fun b => decide (b.isValid ∧ b.domainId = domainId)) ≠ none := by
      rw [Ne, List.find?_eq_none]
      intro absent
      apply absent a listed
      rw [decide_eq_true_eq, isValid_iff]
      exact ⟨complete, domain⟩
    obtain ⟨b, foundb⟩ := Option.ne_none_iff_exists'.mp found
    rw [find?_eq_some_iff] at foundb
    simp only [decide_eq_true_eq, isValid_iff] at foundb
    exact nothing b ((find?_cleared accounts domainId b).mpr foundb)
  · intro absent a found
    rw [Option.mem_def, find?_cleared] at found
    obtain ⟨⟨complete, domain⟩, earlier, later, list, -⟩ := found
    exact absent a (by simp [list]) domain complete

/-! ## Where they part -/

/-- An incomplete account stands first for the domain, and a complete one stands behind it.  This is
the one way in which the two readings can part: where the first account is complete both give it,
and where no complete one is listed both give none. -/
def Hides (accounts : List Account) (domainId : String) : Prop :=
  (∃ a, IsFirstFor accounts domainId a ∧ ¬a.IsComplete) ∧
    ∃ b ∈ accounts, b.domainId = domainId ∧ b.IsComplete

/-- **An incomplete account listed first hides the ones behind it.**  A domain gets the first
account listed for it, if that one is complete.  This is what the list without its incomplete
accounts would give, which is the first complete one, unless an incomplete account stands first and
a complete one behind it; then the domain gets none. -/
theorem incomplete_entry_hides_later (accounts : List Account) (domainId : String) :
    let book := AccountBook.mk .validOnly accounts
    let cleared := AccountBook.mk .validOnly (accounts.filter Account.isValid)
    (∀ a, book.find? domainId = some a ↔ IsFirstFor accounts domainId a ∧ a.IsComplete) ∧
      (∀ a, cleared.find? domainId = some a ↔
        IsFirst accounts (fun b => b.IsComplete ∧ b.domainId = domainId) a) ∧
      (book.find? domainId = cleared.find? domainId ↔ ¬Hides accounts domainId) ∧
      (Hides accounts domainId → book.find? domainId = none) := by
  intro book cleared
  have whole := find?_validOnly accounts domainId
  have rest := find?_cleared accounts domainId
  have none_of_hides (hides : Hides accounts domainId) : book.find? domainId = none := by
    obtain ⟨⟨a, first, incomplete⟩, -⟩ := hides
    rw [Option.eq_none_iff_forall_not_mem]
    intro b found
    obtain ⟨firstb, complete⟩ := (whole b).mp found
    rw [first.unique firstb] at incomplete
    exact incomplete complete
  refine ⟨whole, rest, ?_, none_of_hides⟩
  constructor
  · intro same hides
    rw [none_of_hides hides, eq_comm, find?_cleared_eq_none_iff] at same
    obtain ⟨-, b, listed, domain, complete⟩ := hides
    exact same b listed domain complete
  · intro shown
    rcases found : book.find? domainId with _ | a
    · -- nothing is found: the first account listed, if any, is incomplete, so none is complete
      rw [eq_comm, find?_cleared_eq_none_iff]
      intro b listed domain complete
      rcases first : accounts.find? fun b => decide (b.domainId = domainId) with _ | a
      · rw [List.find?_eq_none] at first
        exact first b listed (by simpa using domain)
      · rw [find?_domain_eq_some_iff] at first
        by_cases complete' : a.IsComplete
        · rw [(whole a).mpr ⟨first, complete'⟩] at found
          cases found
        · exact shown ⟨⟨a, first, complete'⟩, b, listed, domain, complete⟩
    · -- what is found is complete, and no account before it is for the domain at all
      obtain ⟨⟨domain, earlier, later, list, before⟩, complete⟩ := (whole a).mp found
      symm
      rw [rest]
      refine ⟨⟨complete, domain⟩, earlier, later, list, ?_⟩
      intro other listed both
      exact before other listed both.2

/-- The account without a server stands first, so the complete one after it is never found. -/
theorem later_account_hidden :
    let accounts : List Account :=
      [⟨"d1", "", "alice"⟩, ⟨"d1", "https://cloud.example.com", "bob"⟩]
    (AccountBook.mk .validOnly accounts).find? "d1" = none ∧
      (AccountBook.mk .validOnly (accounts.filter Account.isValid)).find? "d1" =
        some ⟨"d1", "https://cloud.example.com", "bob"⟩ := by
  decide

end AccountBook

end DaemonWatch
