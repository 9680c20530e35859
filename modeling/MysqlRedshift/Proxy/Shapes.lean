import MysqlRedshift.Proxy.Pieces

/-!
# Keys and shapes

Whether two queries with one key have one shape: the same tokens of MySQL, where literals
are one placeholder and letter case makes no difference. It holds of queries whose pieces
the replacements of `normalize` leave alone (`Clean`), and of others it need not.
-/

namespace MysqlRedshift.Proxy.Cache

open MysqlRedshift.Misc
open MysqlRedshift.Misc.MysqlLexer (Token isSpace lexFrom lex)

variable {db : UnicodeDb} {q q' : String}

/-- The tokens of a query in lower case, with a placeholder for every literal. -/
def shape (db : UnicodeDb) (q : String) : List Token := (lex q).map fun
  | .word w => .word (w.map db.toLower)
  | .quoted w => .quoted (w.map db.toLower)
  | token => token

/-- What is used of the Unicode database: its lower case of ASCII. -/
structure GoUnicode (db : UnicodeDb) : Prop where
  toLower_ascii : ∀ c : Char, c.toNat < 0x80 → db.toLower c = c.toLower

theorem goUnicode_ascii : GoUnicode .ascii where
  toLower_ascii _ _ := rfl

theorem GoUnicode.toLower_space (go : GoUnicode db) {c : Char} (space : isSpace c = true) :
    db.toLower c = c := by
  simp only [isSpace, Bool.or_eq_true, Bool.and_eq_true, beq_iff_eq, decide_eq_true_eq] at space
  have blank : c = ' ' ↔ c.toNat = 32 := (Char.toNat_inj (d := ' ')).symm
  rw [blank] at space
  rw [go.toLower_ascii c (by omega), ← Char.toNat_inj, toNat_toLower]
  split
  · omega
  · rfl

/-- The query as it is before the passes: trimmed, without its last semicolons, in lower
case. -/
def lowered (db : UnicodeDb) (q : String) : List Char :=
  (toLower db (trimRight (trimSpace q) ";")).toList

/-- A query whose tokens `normalize` keeps. -/
structure Clean (db : UnicodeDb) (q : String) : Prop where
  /-- No white space is cut off that is none for MySQL. -/
  trimmed : trimBoth goIsSpace q.toList = trimBoth isSpace q.toList
  /-- Lower case makes no other tokens, as of `0X1F`, which is a name. -/
  cased : lex (toLower db q) = shape db q
  pieces : Pieces .other (lowered db q)

/-- The semicolons among the last tokens. -/
def trailing (tokens : List Token) : Nat :=
  (tokens.reverse.takeWhile (· == .punct ';')).length

/-- The semicolons that end a query. -/
def terminators (q : String) : Nat := trailing (lex q)

theorem trailing_append (tokens : List Token) (j : Nat) :
    trailing (tokens ++ List.replicate j (.punct ';')) = j + trailing tokens := by
  rw [trailing, List.reverse_append, List.reverse_replicate,
    List.takeWhile_append_of_pos (fun t member => by rw [(List.mem_replicate.mp member).2]; rfl),
    List.length_append, List.length_replicate, trailing]

theorem trailing_shape (db : UnicodeDb) (q : String) :
    trailing (shape db q) = terminators q := by
  rw [terminators, trailing, trailing, shape, ← List.map_reverse, List.takeWhile_map,
    List.length_map]
  congr 2
  funext t
  cases t with
  | word w => rfl
  | quoted w => rfl
  | placeholder => rfl
  | punct c => rfl
  | broken => rfl

theorem GoUnicode.map_spaces (go : GoUnicode db) {w : List Char}
    (spaces : w.all isSpace = true) : w.map db.toLower = w := by
  rw [List.all_eq_true] at spaces
  have same : ∀ c ∈ w, db.toLower c = id c := fun c member => go.toLower_space (spaces c member)
  rw [List.map_congr_left same, List.map_id]

theorem GoUnicode.toLower_semicolon (go : GoUnicode db) : db.toLower ';' = ';' := by
  rw [go.toLower_ascii ';' (by decide)]
  decide

/-- A query in lower case: white space, the text for the passes, semicolons, white space. -/
theorem Clean.toLower_eq (go : GoUnicode db) (clean : Clean db q) :
    ∃ x y k, x.all isSpace = true ∧ y.all isSpace = true ∧
      (toLower db q).toList = x ++ (lowered db q ++ (List.replicate k ';' ++ y)) := by
  obtain ⟨x, y, split, before, behind, _, _⟩ := trimBoth_spec isSpace q.toList
  rw [← clean.trimmed] at split
  obtain ⟨b, split', all, _⟩ :=
    trimEnd_spec (fun c => ";".toList.contains c) (trimBoth goIsSpace q.toList)
  have semicolons : b = List.replicate b.length ';' := by
    apply List.eq_replicate_of_mem
    intro c member
    simpa using List.all_eq_true.mp all c member
  have core : lowered db q =
      (trimEnd (fun c => ";".toList.contains c) (trimBoth goIsSpace q.toList)).map db.toLower := by
    simp only [lowered, toLower, trimRight, trimSpace, String.toList_ofList]
  refine ⟨x, y, b.length, before, behind, ?_⟩
  rw [toLower, String.toList_ofList, split, core]
  conv_lhs => rw [split', semicolons]
  rw [List.map_append, List.map_append, List.map_append, List.map_replicate,
    go.map_spaces before, go.map_spaces behind, go.toLower_semicolon, List.append_assoc]

/-- The shape of a clean query is in its key, up to the semicolons at its end. -/
theorem Clean.shape_eq (go : GoUnicode db) (clean : Clean db q) :
    ∃ j, shape db q = lex (normalize db q) ++ List.replicate j (.punct ';') := by
  obtain ⟨x, y, k, before, behind, whole⟩ := clean.toLower_eq go
  obtain ⟨j, tokens⟩ := clean.pieces.lexFrom_semicolons behind k
  have key : lex (normalize db q) = lexFrom .other (lowered db q) := by
    rw [lex, toList_normalize]
    exact clean.pieces.lexFrom_passes (Or.inr rfl)
  refine ⟨j, ?_⟩
  rw [← clean.cased, lex, whole, MysqlLexer.lexFrom_spaces before, tokens, key]

/-- Two clean queries with one key have one shape exactly if they end with as many
semicolons. -/
theorem shape_eq_iff_of_normalize_eq (go : GoUnicode db) (clean : Clean db q)
    (clean' : Clean db q') (same : normalize db q = normalize db q') :
    shape db q = shape db q' ↔ terminators q = terminators q' := by
  constructor
  · intro shapes
    rw [← trailing_shape db q, shapes, trailing_shape]
  · intro ended
    obtain ⟨j, whole⟩ := clean.shape_eq go
    obtain ⟨j', whole'⟩ := clean'.shape_eq go
    have counted : j = j' := by
      rw [← trailing_shape db q, ← trailing_shape db q', whole, whole', same, trailing_append,
        trailing_append] at ended
      exact Nat.add_right_cancel ended
    rw [whole, whole', same, counted]

/-! ## Queries to try -/

/-- A name in backquotes, a number and a comment at the end. -/
def nameAndPrice : String := "SELECT t.`a b`, 12.5 -- of it"

def nameAndPrice' : String := "select  T.`A B`, 7 -- of it"

/-- What the two have in common behind their number. -/
theorem pieces_ofIt :
    Pieces .other ([' '] ++ '-' :: '-' :: ' ' :: ['o', 'f', ' ', 'i', 't']) :=
  .space (List.cons_ne_nil _ _) rfl rfl (.dashes rfl (by decide) (lone_of_not_mem (by decide)))

/-- What they have in common before it. -/
theorem pieces_name {s : List Char} (next : StartsOutside isSpace s) (later : Pieces .other s) :
    Pieces .word
      (['.'] ++ ('\x60' :: (['a', ' ', 'b'] ++ ['\x60']) ++ ([','] ++ ([' '] ++ s)))) := by
  refine .piece (.dot (fun _ => rfl) rfl) (lone_of_not_mem (by decide)) ?_
  refine .piece (.name rfl rfl rfl rfl) (lone_of_not_mem (by decide)) ?_
  refine .piece (.mark rfl rfl fun slash => absurd slash (by decide))
    (lone_of_not_mem (by decide)) ?_
  exact .space (List.cons_ne_nil _ _) rfl next later

theorem pieces_select {s blank : List Char} (some_char : blank ≠ [])
    (spaces : blank.all isSpace = true) (later : Pieces .word s)
    (next : StartsOutside MysqlLexer.isIdent s) :
    Pieces .other (['s', 'e', 'l', 'e', 'c', 't'] ++ (blank ++ (['t'] ++ s))) := by
  have behind : StartsOutside MysqlLexer.isIdent (blank ++ (['t'] ++ s)) :=
    startsOutside_of_all some_char spaces (fun _ => outside_of_isSpace fun _ => id) _
  refine .piece (.word (List.cons_ne_nil _ _) rfl rfl (Or.inl rfl) behind)
    (lone_of_not_mem (by decide)) ?_
  refine .space some_char spaces rfl ?_
  exact .piece (.word (List.cons_ne_nil _ _) rfl rfl (Or.inl rfl) next)
    (lone_of_not_mem (by decide)) later

theorem clean_nameAndPrice : Clean .ascii nameAndPrice where
  trimmed := by decide +kernel
  cased := by decide +kernel
  pieces := by
    have text : lowered .ascii nameAndPrice = ['s', 'e', 'l', 'e', 'c', 't'] ++ ([' '] ++ (['t'] ++
        (['.'] ++ ('\x60' :: (['a', ' ', 'b'] ++ ['\x60']) ++ ([','] ++ ([' '] ++
          ((['1', '2'] ++ '.' :: ['5']) ++
            ([' '] ++ '-' :: '-' :: ' ' :: ['o', 'f', ' ', 'i', 't'])))))))) := by
      decide +kernel
    have number : Pieces .other ((['1', '2'] ++ '.' :: ['5']) ++
        ([' '] ++ '-' :: '-' :: ' ' :: ['o', 'f', ' ', 'i', 't'])) :=
      .piece (.decimal (by decide) (List.cons_ne_nil _ _) rfl (List.cons_ne_nil _ _) rfl rfl)
        (lone_of_not_mem (by decide)) pieces_ofIt
    rw [text]
    exact pieces_select (List.cons_ne_nil _ _) rfl (pieces_name rfl number) rfl

theorem clean_nameAndPrice' : Clean .ascii nameAndPrice' where
  trimmed := by decide +kernel
  cased := by decide +kernel
  pieces := by
    have text : lowered .ascii nameAndPrice' = ['s', 'e', 'l', 'e', 'c', 't'] ++ ([' ', ' '] ++
        (['t'] ++ (['.'] ++ ('\x60' :: (['a', ' ', 'b'] ++ ['\x60']) ++ ([','] ++ ([' '] ++
          (['7'] ++ ([' '] ++ '-' :: '-' :: ' ' :: ['o', 'f', ' ', 'i', 't'])))))))) := by
      decide +kernel
    have number : Pieces .other
        (['7'] ++ ([' '] ++ '-' :: '-' :: ' ' :: ['o', 'f', ' ', 'i', 't'])) :=
      .piece (.int (by decide) (List.cons_ne_nil _ _) rfl rfl) (lone_of_not_mem (by decide))
        pieces_ofIt
    rw [text]
    exact pieces_select (List.cons_ne_nil _ _) rfl (pieces_name rfl number) rfl

theorem normalize_nameAndPrice :
    normalize .ascii nameAndPrice = "select t.`a b`, ? -- of it" := by
  decide +kernel

theorem normalize_nameAndPrice' :
    normalize .ascii nameAndPrice' = "select t.`a b`, ? -- of it" := by
  decide +kernel

/-- The two differ in letter case, spacing and a number. -/
theorem shape_eq_iff_of_normalize_eq_nameAndPrice :
    shape .ascii nameAndPrice = shape .ascii nameAndPrice' :=
  (shape_eq_iff_of_normalize_eq goUnicode_ascii clean_nameAndPrice clean_nameAndPrice'
    (normalize_nameAndPrice.trans normalize_nameAndPrice'.symm)).mpr (by decide +kernel)

/-- Numbers are replaced in quoted names too. -/
theorem not_shape_eq_of_normalize_eq : ¬ ∀ q q', normalize .ascii q = normalize .ascii q' →
    shape .ascii q = shape .ascii q' := by
  intro all
  have key : normalize .ascii "SELECT `2020` FROM t" = "select `?` from t" := by decide +kernel
  have key' : normalize .ascii "SELECT `2021` FROM t" = "select `?` from t" := by decide +kernel
  have shapes := all _ _ (key.trans key'.symm)
  revert shapes
  decide +kernel

end MysqlRedshift.Proxy.Cache
