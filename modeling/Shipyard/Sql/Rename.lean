import Shipyard.Sql.Schema
/-!
# Renaming names inside statements

Renaming a table or a column changes the statements kept in the schema that name it: the
queries of views, the bodies of triggers, checks and the expressions of indexes. A renaming
says, for a table name, its new name, and for a column name under the qualifier written before
it (none when it stands bare), its new name; names it does not change stay as written.
-/
namespace Shipyard.Sql

/-- How names change: a table's name, and a column's name under its qualifier. -/
structure Renaming where
  table : String → Option String
  column : Option String → String → Option String

namespace Renaming

/-- A name under a change of names. -/
def rename (f : String → Option String) (n : Name) : Name :=
  match f n.text with
  | some t => { n with text := t }
  | none => n

mutual

/-- An expression with its names changed. -/
def expr : Nat → Renaming → Expr → Expr
  | 0, _, e => e
  | fuel + 1, r, e => match e with
    | .column n => .column (rename (r.column none) n)
    | .qualified s t n => .qualified s (rename r.table t) (rename (r.column (some t.text)) n)
    | .unary op a => .unary op (expr fuel r a)
    | .binary op a b => .binary op (expr fuel r a) (expr fuel r b)
    | .collate a c => .collate (expr fuel r a) c
    | .cast a ty => .cast (expr fuel r a) ty
    | .isNull a n => .isNull (expr fuel r a) n
    | .between a l h n => .between (expr fuel r a) (expr fuel r l) (expr fuel r h) n
    | .like op n a p x => .like op n (expr fuel r a) (expr fuel r p) (x.map (expr fuel r))
    | .inList a items n => .inList (expr fuel r a) (items.map (expr fuel r)) n
    | .inSelect a s n => .inSelect (expr fuel r a) (select fuel r s) n
    | .inTable a s t n => .inTable (expr fuel r a) s (rename r.table t) n
    | .exists s => .exists (select fuel r s)
    | .subquery s => .subquery (select fuel r s)
    | .case o bs x =>
      .case (o.map (expr fuel r)) (bs.map fun (.mk c v) => .mk (expr fuel r c) (expr fuel r v))
        (x.map (expr fuel r))
    | .call n args d s o => .call n (args.map (expr fuel r)) d s (o.map (term fuel r))
    | .vector items => .vector (items.map (expr fuel r))
    | .aggregate n args d s f o =>
      .aggregate n (args.map (expr fuel r)) d s (f.map (expr fuel r)) (o.map (term fuel r))
    | .windowCall n args d s f w o =>
      .windowCall n (args.map (expr fuel r)) d s (f.map (expr fuel r)) (w.map (window fuel r))
        (o.map (term fuel r))
    | other => other

/-- A window with its names changed. -/
def window : Nat → Renaming → Window → Window
  | 0, _, w => w
  | fuel + 1, r, .spec p o f => .spec (p.map (expr fuel r)) (o.map (term fuel r)) f
  | fuel + 1, r, .named n p o f b => .named n (p.map (expr fuel r)) (o.map (term fuel r)) f b

/-- An ordering term with its names changed. -/
def term : Nat → Renaming → Term → Term
  | 0, _, t => t
  | fuel + 1, r, .mk e d n => .mk (expr fuel r e) d n

/-- A query with its names changed. -/
def select : Nat → Renaming → Select → Select
  | 0, _, s => s
  | fuel + 1, r, .mk ctes recursive first rest order limit offset =>
    .mk (ctes.map fun (.mk n cols q) => .mk n cols (select fuel r q)) recursive (core fuel r first)
      (rest.map fun (.mk op c) => .mk op (core fuel r c))
      (order.map fun (.mk e d n) => .mk (expr fuel r e) d n) (limit.map (expr fuel r))
      (offset.map (expr fuel r))

/-- A core with its names changed. -/
def core : Nat → Renaming → Core → Core
  | 0, _, c => c
  | fuel + 1, r, .values rows => .values (rows.map (·.map (expr fuel r)))
  | fuel + 1, r, .select d cols sources f g h ws =>
    .select d (cols.map fun c => match c with
        | .allOf t => .allOf (rename r.table t)
        | .expr e a s => .expr (expr fuel r e) a s
        | other => other)
      (sources.map (source fuel r)) (f.map (expr fuel r)) (g.map (expr fuel r)) (h.map (expr fuel r))
      (ws.map fun (.mk n w) => .mk n (window fuel r w))

/-- A source with its names changed. -/
def source : Nat → Renaming → Source → Source
  | 0, _, s => s
  | fuel + 1, r, .mk n k item on us =>
    let item := match item with
      | .table s t a args => .table s (rename r.table t) a (args.map (·.map (expr fuel r)))
      | .subquery q a => .subquery (select fuel r q) a
      | .nested srcs a => .nested (srcs.map (source fuel r)) a
      | other => other
    .mk n k item (on.map (expr fuel r)) (us.map (rename (r.column none)))

end

/-- A data statement with its names changed. -/
def dml (fuel : Nat) (r : Renaming) : Dml → Dml
  | .insert ctes c tgt cols src ups ret =>
    let src := match src with
      | .query q => .query (select fuel r q)
      | .defaults => .defaults
    let ups := ups.map fun u =>
      { target := u.target.map (fun (.mk e d n) => .mk (expr fuel r e) d n)
        targetFilter := u.targetFilter.map (expr fuel r)
        update := u.update.map fun (sets, f) =>
          (sets.map (fun a => { columns := a.columns.map (rename (r.column none)),
                                value := expr fuel r a.value }), f.map (expr fuel r)) }
    .insert (ctes.map fun (.mk n cs q) => .mk n cs (select fuel r q)) c
      { tgt with name := rename r.table tgt.name } (cols.map (·.map (rename (r.column none))))
      src ups ret
  | .update ctes c tgt sets srcs f ret =>
    .update (ctes.map fun (.mk n cs q) => .mk n cs (select fuel r q)) c
      { tgt with name := rename r.table tgt.name }
      (sets.map fun a => { columns := a.columns.map (rename (r.column none)),
                           value := expr fuel r a.value })
      (srcs.map (source fuel r)) (f.map (expr fuel r)) ret
  | .delete ctes tgt f ret =>
    .delete (ctes.map fun (.mk n cs q) => .mk n cs (select fuel r q))
      { tgt with name := rename r.table tgt.name } (f.map (expr fuel r)) ret
  | .select s => .select (select fuel r s)

/-- A renaming of one table. -/
def ofTable (old new : String) : Renaming :=
  { table := fun n => if sameName n old then some new else none, column := fun _ _ => none }

/-- A renaming of one column of a table: bare names, and names under the table's name or
under any of the given qualifiers (a trigger's `new` and `old`). -/
def ofColumn (table : String) (quals : List String) (old new : String) : Renaming :=
  { table := fun _ => none,
    column := fun q n =>
      let under := match q with
        | none => true
        | some t => sameName t table || quals.any (sameName t ·)
      if under && sameName n old then some new else none }

end Renaming

end Shipyard.Sql
