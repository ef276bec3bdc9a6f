import Boxplot.Lib.Async
import Boxplot.Lib.Sql
/-!
# Migrations

`migrate` of `src-tauri/src/db/migrations.rs` and its three scripts. A script
run by `execute_batch` commits each of its statements; only the second one runs
in a transaction.
-/

namespace Boxplot.Db

open Lib Lib.Sql

/-! ## Scripts -/

/-- `0001_initial.sql`, up to the version it ends with. -/
def initialTables : List Statement :=
  [.createTable "accounts" ["id", "session_url", "jmap_account_id"] ["id"],
    .createTable "mailboxes" ["id", "account_id", "jmap_id", "parent_id", "name", "role", "sort_order"] ["id"],
    .createIndex "ux_mailboxes_account_jmap_id" "mailboxes" ["account_id", "jmap_id"],
    .createIndex "ux_mailboxes_account_role" "mailboxes" ["account_id", "role"],
    .createIndex "ix_mailboxes_account_parent_sort" "mailboxes" ["account_id", "parent_id", "sort_order", "id"],
    .createTable "emails" ["id", "account_id", "jmap_id", "blob_id", "thread_id", "message_id", "subject", "preview",
      "received_at_ms", "size_bytes", "keywords_json", "has_attachment"] ["id"],
    .createIndex "ux_emails_account_jmap_id" "emails" ["account_id", "jmap_id"],
    .createIndex "ix_emails_account_received" "emails" ["account_id", "received_at_ms", "id"],
    .createIndex "ix_emails_account_message_id" "emails" ["account_id", "message_id"],
    .createTable "email_mailboxes" ["email_id", "mailbox_id"] ["email_id", "mailbox_id"],
    .createIndex "ix_email_mailboxes_mailbox_email" "email_mailboxes" ["mailbox_id", "email_id"],
    .createTable "email_bodies" ["email_id", "text_body", "html_body"] ["email_id"],
    .createTable "attachment_refs" ["id", "email_id", "part_id", "blob_id", "name", "media_type", "size_bytes"] ["id"],
    .createIndex "ux_attachment_refs_email_part" "attachment_refs" ["email_id", "part_id"],
    .createIndex "ix_attachment_refs_email" "attachment_refs" ["email_id"],
    .createTable "pending_mutations" ["id", "account_id", "kind", "target_type", "target_local_id", "payload", "payload_version",
      "status", "created_at_ms", "next_attempt_at_ms", "attempt_count", "last_error"] ["id"],
    .createIndex "ix_pending_mutations_queue" "pending_mutations" ["account_id", "next_attempt_at_ms", "id"],
    .createTable "sync_cursors" ["account_id", "data_type", "state", "updated_at_ms"] ["account_id", "data_type"]]

def initial : List Statement := initialTables ++ [.setVersion 1]

/-- The columns that name a mailbox view. -/
def viewKey : List String := ["account_key", "mailbox_jmap_id", "filter_kind", "sort_property", "sort_direction"]

/-- `0002_persist_01.sql`. -/
def persist01 : List Statement :=
  [.dropTable "sync_cursors",
    .dropTable "pending_mutations",
    .dropTable "attachment_refs",
    .dropTable "email_bodies",
    .dropTable "email_mailboxes",
    .dropTable "emails",
    .dropTable "mailboxes",
    .dropTable "accounts",
    .createTable "accounts" ["account_key", "service_key", "jmap_account_id"] ["account_key"],
    .createTable "mailboxes" ["account_key", "jmap_id", "name", "parent_jmap_id", "role", "sort_order", "total_emails",
      "unread_emails", "may_read_items", "may_add_items", "may_remove_items", "may_set_seen", "may_set_keywords", "may_submit"]
      ["account_key", "jmap_id"],
    .createIndex "ix_mailboxes_account" "mailboxes" ["account_key"],
    .createTable "identities" ["account_key", "jmap_id", "name", "email", "reply_to_json", "bcc_json"] ["account_key", "jmap_id"],
    .createIndex "ix_identities_account" "identities" ["account_key"],
    .createTable "emails" ["account_key", "jmap_id", "blob_id", "thread_id", "sender_json", "from_json", "reply_to_json", "to_json",
      "cc_json", "bcc_json", "subject", "sent_at", "received_at", "size", "preview", "has_attachment", "keywords_json"]
      ["account_key", "jmap_id"],
    .createIndex "ix_emails_account" "emails" ["account_key"],
    .createTable "email_mailboxes" ["account_key", "email_jmap_id", "mailbox_jmap_id"]
      ["account_key", "email_jmap_id", "mailbox_jmap_id"],
    .createIndex "ix_email_mailboxes_mailbox" "email_mailboxes" ["account_key", "mailbox_jmap_id"],
    .createTable "email_bodies" ["account_key", "email_jmap_id", "text_body", "html_body"] ["account_key", "email_jmap_id"],
    .createTable "attachment_caches" ["account_key", "email_jmap_id"] ["account_key", "email_jmap_id"],
    .createTable "attachment_refs" ["account_key", "email_jmap_id", "part_id", "blob_id", "name", "media_type", "size",
      "disposition", "cid"] ["account_key", "email_jmap_id", "part_id"],
    .createTable "mailbox_views" (viewKey ++ ["query_state", "total"]) viewKey,
    .createTable "mailbox_view_coverage" (viewKey ++ ["ordinal", "start", "end_exclusive"]) (viewKey ++ ["ordinal"]),
    .createTable "mailbox_view_items" (viewKey ++ ["position", "email_jmap_id"]) (viewKey ++ ["position"]),
    .createTable "sync_cursors" ["account_key", "data_type", "state"] ["account_key", "data_type"],
    .createTable "pending_mutations" ["account_key", "mutation_id", "kind", "created_at", "target_email_jmap_id",
      "send_intent_json", "keyword_change_json", "membership_change_json", "lifecycle_json"] ["account_key", "mutation_id"],
    .createIndex "ix_pending_mutations_account" "pending_mutations" ["account_key"],
    .setVersion 2]

/-- A row of the index: an email with one of its bodies, if it has any. -/
def ftsRow (e : Row) (b : Option Row) : Row where
  rowid := e.rowid
  cell
    | "account_key" => e.cell "account_key"
    | "email_jmap_id" => e.cell "jmap_id"
    | "subject" => e.cell "subject"
    | "preview" => e.cell "preview"
    | "text_body" => (b.map (·.cell "text_body")).getD .null
    | "html_body" => (b.map (·.cell "html_body")).getD .null
    | _ => .null

/-- The bodies a left join gives an email: `none` if there are none. -/
def bodiesOf (rows : Rows) (e : Row) : List (Option Row) :=
  match (rows "email_bodies").filter fun b =>
      (e.cell "account_key").eq (b.cell "account_key") && (e.cell "jmap_id").eq (b.cell "email_jmap_id") with
  | [] => [none]
  | bodies => bodies.map some

def backfill (rows : Rows) : List Row := (rows "emails").flatMap fun e => (bodiesOf rows e).map (ftsRow e)

/-- `0003_fts5.sql`, up to the version it ends with. -/
def fts5Objects : List Statement :=
  [.createTable "emails_fts" ["account_key", "email_jmap_id", "subject", "preview", "text_body", "html_body"] [],
    .createTrigger "emails_ai" "emails" "AFTER INSERT",
    .createTrigger "emails_au" "emails" "AFTER UPDATE",
    .createTrigger "emails_ad" "emails" "AFTER DELETE",
    .createTrigger "email_bodies_ai" "email_bodies" "AFTER INSERT",
    .createTrigger "email_bodies_au" "email_bodies" "AFTER UPDATE",
    .createTrigger "email_bodies_ad" "email_bodies" "AFTER DELETE",
    .insertSelect "emails_fts" backfill]

def fts5 : List Statement := fts5Objects ++ [.setVersion 3]

/-! ## The runner -/

inductive Call
  | userVersion
  | countRows (table : String)
  | execute (s : Statement)
  | transaction (script : List Statement)

abbrev Reply : Call → Type
  | .userVersion => Nat
  | .countRows _ => Nat
  | .execute _ => Except Unit Unit
  | .transaction _ => Except Unit Unit

/-- `PersistenceError::Migration`: an unknown version, a script that failed, or mutations that may not be discarded. -/
inductive MigrationError
  | unsupportedVersion (version : Nat)
  | script
  | legacyMutations
  deriving DecidableEq, Repr

abbrev Migration (α : Type) : Type := Async Call Reply MigrationError α

def latestVersion : Nat := 3

def ask {α : Type} (c : Call) (read : Reply c → Except MigrationError α) : Migration α := .await c fun r => .pure (read r)

def userVersion : Migration Nat := ask .userVersion .ok

def scriptError : Except Unit Unit → Except MigrationError Unit := Except.mapError fun _ => .script

/-- `execute_batch` outside a transaction. -/
def executeBatch : List Statement → Migration Unit
  | [] => pure ()
  | s :: rest => do
    ask (.execute s) scriptError
    executeBatch rest

def migrate : Migration Unit := do
  let version ← userVersion
  if latestVersion < version then throw (.unsupportedVersion version)
  if version = 0 then executeBatch initial
  let version ← userVersion
  if version = 1 then do
    let legacyMutations ← ask (.countRows "pending_mutations") .ok
    if legacyMutations ≠ 0 then throw .legacyMutations
    ask (.transaction persist01) scriptError
  let version ← userVersion
  if version = 2 then executeBatch fts5

/-- How a database answers. -/
def answer (db : Sql.Db) : (c : Call) → Reply c × Sql.Db
  | .userVersion => (db.version, db)
  | .countRows table => ((db.rows table).length, db)
  | .execute s => db.execute s
  | .transaction script => db.transaction script

def perform (db : Sql.Db) (c : Call) (r : Reply c) (db' : Sql.Db) : Prop := answer db c = (r, db')

end Boxplot.Db
