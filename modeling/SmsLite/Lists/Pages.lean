import Mathlib.Data.List.Perm.Basic
import Mathlib.Data.String.Basic
import SmsLite.Lib.Paging
import SmsLite.Lists.Catalogue

/-!
# Reading a list to its end

A client starts at `skip = 0` and asks for the next page while `has_more` is true.  No list has an
`ORDER BY` that tells all its rows apart, and the server may return equal rows in another order for
every page.

## Main definitions

* `PageLimit` — the sizes of a page.
* `Listing`, `Listing.respond` — a list, and its response.
* `Listing.fetchAll` — the client.
* `Listing.Complete` — the client gets every matching row once.
* `Listing.Aligned` — no page ends between rows with equal sort keys.

## Main results

* `Listing.complete_iff` — **the client gets every matching row once exactly if no page ends
  between rows with equal sort keys**.
* `lists_complete_iff` — so it is for users, groups, subjects and emails.
* `groups_of_one_year_incomplete` — two groups of one academic year, in pages of one.
-/

namespace SmsLite

/-- `PaginationParams.limit`. -/
abbrev PageLimit := { limit : ℕ // 1 ≤ limit ∧ limit ≤ 100 }

/-- A list of a service: the query, the table, and what is loaded for a row. -/
structure Listing (α β : Type) where
  select : Select α
  table : List α
  load : α → β

namespace Listing

variable {α β : Type} {l : Listing α β}

/-- The response, with the rows in the order the server has chosen. -/
def respond (l : Listing α β) (A : l.select.Arrangement l.table) (skip limit : ℕ) :
    PaginatedResponse β :=
  paginate A l.load skip limit

/-- The client's requests: the server chooses an order for each. -/
def fetchAll (l : Listing α β) (A : ℕ → l.select.Arrangement l.table) (limit fuel : ℕ) :
    Option (List β) :=
  Paging.crawl (fun skip => (l.respond (A skip) skip limit).items)
    (fun skip => (l.respond (A skip) skip limit).hasMore) limit fuel 0

/-- What the list is to show: the matching rows. -/
def matching (l : Listing α β) : List β := (l.select.rows l.table).map l.load

/-- Whatever orders the server chooses, the client ends, and has then got every matching row
once. -/
def Complete (l : Listing α β) (limit : ℕ) : Prop :=
  ∀ A : ℕ → l.select.Arrangement l.table, ∃ fuel items,
    l.fetchAll A limit fuel = some items ∧ items.Perm l.matching

/-- No page ends between rows with equal sort keys. -/
def Aligned (l : Listing α β) (limit : ℕ) : Prop := l.select.Aligned l.table limit

/-- The client gets what is loaded for the rows that a client of the rows gets. -/
theorem fetchAll_eq (A : ℕ → l.select.Arrangement l.table) (limit fuel : ℕ) :
    l.fetchAll A limit fuel =
      (Paging.crawl (fun skip => (A skip).page skip limit)
        (fun skip => decide (skip + limit < l.select.count l.table)) limit fuel 0).map
        (List.map l.load) :=
  Paging.crawl_map l.load limit fuel 0

theorem complete_iff_select (hload : Function.Injective l.load) {limit : ℕ} :
    l.Complete limit ↔ l.select.Complete l.table limit := by
  constructor
  · intro hcomplete A
    obtain ⟨fuel, items, hitems, hperm⟩ := hcomplete A
    rw [fetchAll_eq] at hitems
    obtain ⟨rows, hrows, rfl⟩ := Option.map_eq_some_iff.mp hitems
    exact ⟨fuel, rows, hrows, (List.map_perm_map_iff hload).mp hperm⟩
  · intro hcomplete A
    obtain ⟨fuel, rows, hrows, hperm⟩ := hcomplete A
    refine ⟨fuel, rows.map l.load, ?_, hperm.map l.load⟩
    rw [fetchAll_eq, hrows]
    rfl

/-- **The client gets every matching row once exactly if no page ends between rows with equal sort
keys.** -/
theorem complete_iff (hload : Function.Injective l.load) (hn : l.table.Nodup) {limit : ℕ}
    (hlimit : 0 < limit) : l.Complete limit ↔ l.Aligned limit :=
  (complete_iff_select hload).trans (Select.complete_iff hlimit hn)

end Listing

/-! ### The lists of the services -/

/-- The tables that are listed; `id` is the primary key of each. -/
structure Tables where
  db : Db
  subjects : List Subject
  users_nodup : (Keyed.keys db.users).Nodup
  groups_nodup : (Keyed.keys db.groups).Nodup
  subjects_nodup : (Keyed.keys subjects).Nodup
  pendingEmails_nodup : (db.pendingEmails.map PendingEmail.id).Nodup

/-- The list of a request for users. -/
def UserListRequest.listing (co : Collation) (db : Db) (r : UserListRequest) :
    Listing User Loaded where
  select := r.select co
  table := db.users
  load := db.load { loadGroup := r.loadGroup }

/-- The list of a request for groups. -/
def GroupListRequest.listing (co : Collation) (groups : List Group) (r : GroupListRequest) :
    Listing Group Group where
  select := r.select co
  table := groups
  load := id

/-- The list of a request for subjects. -/
def SubjectListRequest.listing (co : Collation) (subjects : List Subject)
    (r : SubjectListRequest) : Listing Subject Subject where
  select := r.select co
  table := subjects
  load := id

/-- The list of a request for emails. -/
def EmailListRequest.listing (emails : List PendingEmail) (r : EmailListRequest) :
    Listing PendingEmail PendingEmail where
  select := r.select
  table := emails
  load := id

/-- What is loaded for a user has its row. -/
theorem load_injective (db : Db) (options : UserQuery) : Function.Injective (db.load options) := by
  intro u v h
  exact congrArg Loaded.user h

/-- **Reading users, groups, subjects or emails to the end gives every matching row once exactly if
no page ends between rows with equal sort keys.** -/
theorem lists_complete_iff (co : Collation) (tables : Tables) (limit : PageLimit) :
    (∀ r : UserListRequest,
      (r.listing co tables.db).Complete limit ↔ (r.listing co tables.db).Aligned limit) ∧
    (∀ r : GroupListRequest,
      (r.listing co tables.db.groups).Complete limit ↔
        (r.listing co tables.db.groups).Aligned limit) ∧
    (∀ r : SubjectListRequest,
      (r.listing co tables.subjects).Complete limit ↔
        (r.listing co tables.subjects).Aligned limit) ∧
    ∀ r : EmailListRequest,
      (r.listing tables.db.pendingEmails).Complete limit ↔
        (r.listing tables.db.pendingEmails).Aligned limit := by
  have hlimit : 0 < (limit : ℕ) := limit.2.1
  refine ⟨fun r => ?_, fun r => ?_, fun r => ?_, fun r => ?_⟩
  · exact Listing.complete_iff (load_injective _ _) tables.users_nodup.of_map hlimit
  · exact Listing.complete_iff Function.injective_id tables.groups_nodup.of_map hlimit
  · exact Listing.complete_iff Function.injective_id tables.subjects_nodup.of_map hlimit
  · exact Listing.complete_iff Function.injective_id tables.pendingEmails_nodup.of_map hlimit

/-- A group of the academic year 2025. -/
def groupOf2025 (id : ℕ) (name : String) : Group where
  id := id
  name := name
  academicYear := 2025
  gradeLevel := none
  capacity := none
  isArchived := false
  archivedAt := none
  createdAt := 0

/-- Two groups of one academic year, by academic year in pages of one: the second page may show
the group of the first. -/
theorem groups_of_one_year_incomplete :
    let r := GroupListRequest.getGroupsAdmin { name := none, academicYear := none }
      "academic_year" "desc"
    ¬ (r.listing ⟨Char.toLower, Ranking.linear String⟩
      [groupOf2025 1 "10A", groupOf2025 2 "10B"]).Complete 1 := by
  intro r hcomplete
  have haligned := (Listing.complete_iff Function.injective_id (by decide) (by decide)).mp hcomplete
  have hcut := haligned 1 (groupOf2025 1 "10A") (by decide +kernel)
  exact hcut (by decide +kernel)

end SmsLite
