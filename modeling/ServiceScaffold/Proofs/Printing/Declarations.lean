import ServiceScaffold.Proofs.Printing.Messages

/-!
# Reading printed services and files

At the top of a file and in a service the first lexeme alone tells what comes. With the messages
read back, so is the whole file (`file_run`).
-/
namespace ServiceScaffold.Schema.Printing
open Schema.Parser Grammar Lexical
open Lexeme (ofWord ofDelimiter)

/-! ## Services -/

/-- A type may be `stream` itself, since the mark of a stream has a type behind it. -/
theorem rpcType_run (stream : Bool) (typeName : String) (rest : List Lexeme) :
    Grammar.rpcType.run (Schema.rpcType stream typeName ++ rest) =
      .ok ((stream, typeName), rest) := by
  have hmark : streamMark.run ((if stream then [mark .stream] else []) ++
      ofWord typeName :: ofDelimiter .rparen :: rest) =
        .ok (stream, ofWord typeName :: ofDelimiter .rparen :: rest) := by
    cases stream with
    | true =>
      have hs : startsStream (mark .stream :: ofWord typeName :: ofDelimiter .rparen :: rest) =
          true := by simp [startsStream]
      rw [if_pos rfl, List.singleton_append, streamMark, look_bind_run, if_pos hs,
        run_bind_of_ok (word_run_mark _ _), run_pure]
    | false => simp [streamMark, startsStream, Kind.isWord]
  rw [Schema.rpcType, List.cons_append, List.append_assoc, Grammar.rpcType,
    run_bind_of_ok (delimiter_run _ _), List.cons_append, List.singleton_append,
    run_bind_of_ok hmark, run_bind_of_ok (word_run _ _), run_bind_of_ok (delimiter_run _ _),
    run_pure]

theorem rpcItem_run {s : Setting} (h : s.IsPrintable) (rest : List Lexeme) :
    rpcItem.run (s.lexemes ++ rest) = .ok (some s, rest) := by
  have hk : kindAt (s.lexemes ++ rest) 0 = .keyword .option := rfl
  rw [rpcItem, look_bind_run, if_pos hk, map_run _ (setting_run h rest)]

theorem opensItem_setting (s : Setting) : OpensItem s.lexemes :=
  ⟨_, _, rfl, nofun⟩

/-- Without settings an rpc ends at its semicolon, and the braces are never left empty. -/
theorem rpcSettings_run {settings : List Setting} (h : ∀ s ∈ settings, s.IsPrintable)
    (name : String) (rest : List Lexeme) :
    (rpcSettings name).run ((if settings = [] then [ofDelimiter .semicolon]
      else bracedWith (settings.flatMap Setting.lexemes)) ++ rest) = .ok (settings, rest) := by
  by_cases hs : settings = []
  · rw [if_pos hs, hs]
    rfl
  · have hitems : (braced rpcItem rpcItem_consuming).run
        (bracedWith (settings.flatMap Setting.lexemes) ++ rest) = .ok (settings.map id, rest) :=
      braced_run (fun s hm => rpcItem_run (h s hm)) (fun s _ => opensItem_setting s) rest
    rw [List.map_id] at hitems
    rw [if_neg hs]
    exact hitems

theorem rpc_run {r : Rpc} (h : r.IsPrintable) (rest : List Lexeme) :
    rpc.run (r.lexemes ++ rest) = .ok (r, rest) := by
  obtain ⟨_, _, _, hs⟩ := h
  rw [Rpc.lexemes, List.cons_append, List.cons_append, List.append_assoc, List.cons_append,
    List.append_assoc, rpc, run_bind_of_ok (keyword_run _ _), run_bind_of_ok (word_run _ _),
    run_bind_of_ok (rpcType_run _ _ _)]
  dsimp only
  rw [run_bind_of_ok (keyword_run _ _), run_bind_of_ok (rpcType_run _ _ _)]
  dsimp only
  rw [run_bind_of_ok (rpcSettings_run hs r.name rest), run_pure]

theorem serviceItem_run {e : ServiceElement} (h : e.IsPrintable) (rest : List Lexeme) :
    serviceItem.run (e.lexemes ++ rest) = .ok (some e, rest) := by
  cases e with
  | rpc r =>
    have hk : kindAt (r.lexemes ++ rest) 0 = .keyword .rpc := rfl
    rw [ServiceElement.lexemes, serviceItem, look_bind_run, hk, if_neg (by simp),
      if_neg (by simp), if_pos rfl, map_run _ (rpc_run h rest)]
    rfl
  | setting s =>
    have hk : kindAt (s.lexemes ++ rest) 0 = .keyword .option := rfl
    rw [ServiceElement.lexemes, serviceItem, look_bind_run, hk, if_neg (by simp), if_pos rfl,
      map_run _ (setting_run h rest)]
    rfl

theorem opensItem_serviceElement (e : ServiceElement) : OpensItem e.lexemes := by
  cases e with
  | rpc r => exact ⟨_, _, rfl, nofun⟩
  | setting s => exact opensItem_setting s

theorem service_run {s : Service} (h : ∀ e ∈ s.elements, e.IsPrintable) (rest : List Lexeme) :
    service.run (mark .service :: ofWord s.name ::
      (bracedWith (s.elements.flatMap ServiceElement.lexemes) ++ rest)) = .ok (s, rest) := by
  have hitems : (braced serviceItem serviceItem_consuming).run
      (bracedWith (s.elements.flatMap ServiceElement.lexemes) ++ rest) =
        .ok (s.elements.map id, rest) :=
    braced_run (fun e he => serviceItem_run (h e he)) (fun e _ => opensItem_serviceElement e) rest
  rw [List.map_id] at hitems
  rw [service, run_bind_of_ok (keyword_run _ _), run_bind_of_ok (word_run _ _),
    run_bind_of_ok hitems, run_pure]

/-! ## Files -/

theorem dialect_run (value : String) (rest : List Lexeme) :
    dialect.run (mark .syntaxMark :: ofDelimiter .equals :: literal value ::
      ofDelimiter .semicolon :: rest) = .ok (value, rest) := by
  rw [dialect, run_bind_of_ok (word_run_mark _ _), run_bind_of_ok (delimiter_run _ _),
    run_bind_of_ok (literal_run _ _ _), run_bind_of_ok (delimiter_run _ _), run_pure]

theorem package_run (name : String) (rest : List Lexeme) :
    package.run (mark .package :: ofWord name :: ofDelimiter .semicolon :: rest) =
      .ok (name, rest) := by
  rw [package, run_bind_of_ok (keyword_run _ _), run_bind_of_ok (word_run _ _),
    run_bind_of_ok (delimiter_run _ _), run_pure]

/-- The path is a literal, so that its text is never taken for the kind of the import. -/
theorem importMark_run (kind : ImportKind) (path : String) (rest : List Lexeme) :
    Grammar.importMark.run (kind.lexemes ++ literal path :: rest) =
      .ok (kind, literal path :: rest) := by
  cases kind with
  | plain =>
    have hk : importKind (literal path :: rest) = .plain := by simp [importKind, literal]
    rw [ImportKind.lexemes, List.nil_append, Grammar.importMark, look_bind_run, hk, if_pos rfl,
      run_pure]
  | reexported => rfl
  | weak => rfl

theorem importing_run (i : Import) (rest : List Lexeme) :
    importing.run (mark .importMark :: (i.kind.lexemes ++ literal i.path ::
      ofDelimiter .semicolon :: rest)) = .ok (i, rest) := by
  rw [importing, run_bind_of_ok (keyword_run _ _), run_bind_of_ok (importMark_run _ _ _),
    run_bind_of_ok (literal_run _ _ _), run_bind_of_ok (delimiter_run _ _), run_pure]

theorem fileStatement_run {s : Statement} (hs : s.standsInFile = true) (h : s.IsPrintable)
    (rest : List Lexeme) : declaration.run (s.lexemes ++ rest) = .ok (some (.statement s), rest) := by
  cases s with
  | field | mapField | group | reserved | extensions => cases hs
  | dialect value => exact map_run _ (dialect_run value rest)
  | package name => exact map_run _ (package_run name rest)
  | importing i =>
    rw [Statement.lexemes, List.cons_append, List.append_assoc]
    exact map_run _ (importing_run i rest)
  | enumeration e => exact map_run _ (enumeration_run h rest)
  | extend extendee => exact map_run _ (extend_run extendee rest)

theorem declaration_run {d : Declaration} (h : d.IsPrintable) (rest : List Lexeme) :
    declaration.run (d.lexemes ++ rest) = .ok (some d, rest) := by
  cases d with
  | statement s => exact fileStatement_run h.1 h.2 rest
  | setting s => exact map_run _ (setting_run h rest)
  | message m => exact map_run _ (message_run h.2 rest)
  | service s => exact map_run _ (service_run h.2 rest)

/-- The grammar reads a printed file as the file. -/
theorem file_run {f : File} (h : f.IsPrintable) : Grammar.file f.lexemes = .ok f := by
  have hitems : declarations.run (f.flatMap Declaration.lexemes ++ []) = .ok (f.map id, []) :=
    itemsFrom_flatMap (fun d hd => declaration_run (h d hd)) (fun _ _ _ => rfl) rfl
  rw [List.append_nil, List.map_id] at hitems
  rw [Grammar.file, File.lexemes, hitems]
  rfl

end ServiceScaffold.Schema.Printing
