/-! # Settings notation

The part of TOML that settings can make use of: texts, lists and tables. A table is written between
braces, by dotted keys or below a header, and each way has its own rule on adding to it later. No
key is written twice.
-/

namespace TemplateAudit.Toml

/-- How a table was written; a header implies the tables that lead to its own. -/
inductive TableKind where
  | inline
  | dotted
  | header
  | implied
  deriving DecidableEq, Repr

inductive Value where
  | text (content : String)
  | list (items : List Value)
  | table (kind : TableKind) (members : List (String × Value))
  deriving Repr

abbrev Members := List (String × Value)

namespace Members

def lookup (key : String) : Members → Option Value
  | [] => none
  | (other, value) :: rest => if other = key then some value else lookup key rest

def replace (key : String) (value : Value) : Members → Members
  | [] => []
  | (other, old) :: rest =>
    if other = key then (key, value) :: rest else (other, old) :: replace key value rest

/-- Adds a value under a dotted key; on the way only tables of dotted keys may be added to. -/
def define (value : Value) : List String → Members → Option Members
  | [], _ => none
  | [key], members =>
    match lookup key members with
    | none => some (members ++ [(key, value)])
    | some _ => none
  | key :: rest, members =>
    match lookup key members with
    | none => (define value rest []).map fun inner => members ++ [(key, .table .dotted inner)]
    | some (.table .dotted inner) =>
      (define value rest inner).map fun new => replace key (.table .dotted new) members
    | some _ => none

/-- Opens the table of a header; only a table that was implied so far may be there already. -/
def openTable : List String → Members → Option Members
  | [], _ => none
  | [key], members =>
    match lookup key members with
    | none => some (members ++ [(key, .table .header [])])
    | some (.table .implied inner) => some (replace key (.table .header inner) members)
    | some _ => none
  | key :: rest, members =>
    match lookup key members with
    | none => (openTable rest []).map fun inner => members ++ [(key, .table .implied inner)]
    | some (.table kind inner) =>
      if kind = .inline then none
      else (openTable rest inner).map fun new => replace key (.table kind new) members
    | some _ => none

/-- Adds a value under a dotted key in the table of a header. -/
def defineIn (value : Value) (key : List String) : List String → Members → Option Members
  | [], members => define value key members
  | name :: names, members =>
    match lookup name members with
    | some (.table kind inner) =>
      (defineIn value key names inner).map fun new => replace name (.table kind new) members
    | _ => none

end Members

end TemplateAudit.Toml
