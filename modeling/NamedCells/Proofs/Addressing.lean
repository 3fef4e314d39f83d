import NamedCells.Proofs.NameGrammar
import NamedCells.Proofs.WholeSegments
import NamedCells.Proofs.WordForms
import NamedCells.Proofs.WrittenScripts

/-!
# Which cells a script can address

A name comes into a script as a word, and the script is cut into segments before the words of a
segment are read.  The two passes do not agree on what a quotation mark is: to the cut every mark
opens or closes quotes, to the words a mark within a word is a character like any other.  So a name
with marks in it can only stand as it is, and then the cut must leave it whole: before the name an
even number of marks stands in the segment, so that within the name an odd number has to stand
before every semicolon.  A name without marks can always be put in quotation marks.

## Main definitions

* `Name.Addressable` — the names that a script can hold.

## Main results

* `Command.addressable_of_parse` — whatever command a name is in, the name is addressable.
* `Command.exists_script_of_addressable` — an addressable name can be asked for.
* `name_addressable_iff` — **the names that a script can ask for are the addressable ones.**
-/

namespace NamedCells

/-- The names that a script can hold. -/
inductive Name.Addressable (name : String) : Prop
  /-- In quotation marks. -/
  | quoted (noMark : '"' ∉ name.toList) : Addressable name
  /-- As it is. -/
  | bare (visible : ∀ c ∈ name.toList, ¬ WhiteSpace c) (first : name.toList.head? ≠ some '"')
    (odd : ∀ before after, name.toList = before ++ ';' :: after → Odd (before.count '"')) :
    Addressable name

/-- A name with a mark and a blank in it is not addressable. -/
theorem Name.not_addressable {name : String} (mark : '"' ∈ name.toList)
    (blank : ∃ c ∈ name.toList, WhiteSpace c) : ¬ Addressable name := by
  intro addressable
  cases addressable with
  | quoted noMark => exact noMark mark
  | bare visible =>
    obtain ⟨c, mem, white⟩ := blank
    exact visible c mem white

/-! ### Names in commands -/

namespace Keyword

theorem mem_spellings_of_ofLower? {k : Keyword} {s : String} (keyword : ofLower? s = some k) :
    s ∈ k.spellings := by
  unfold ofLower? at keyword
  split at keyword <;> cases keyword <;> decide

/-- There are no marks in a word for a keyword. -/
theorem mark_notMem_of_ofWord? {k : Keyword} {word : List Char} (keyword : ofWord? word = some k) :
    '"' ∉ word := by
  obtain ⟨-, bare⟩ := isBare_of_spelled (mem_spellings_of_ofLower? keyword)
  intro mem
  exact absurd (bare _ mem) (by decide)

end Keyword

namespace Command

variable {c : Command} {name segment : String}

/-- A name comes first among the arguments. -/
theorem head?_of_ofKeyword {k : Keyword} {arguments : List (List Char)}
    (read : ofKeyword k arguments = .ok c) (named : .name name ∈ c.arguments) :
    arguments.head? = some name.toList := by
  have alone {s : List Char} {make : Binary64 → Command} {word : List Char}
      (takes : ∀ x, (make x).arguments = [.name (String.ofList s), .number x])
      (read : (number word).map make = .ok c) : some s = some name.toList := by
    cases value : number word with
    | error e => rw [value] at read; cases read
    | ok x =>
      rw [value] at read
      obtain rfl := Except.ok.inj read
      rw [takes] at named
      simp only [List.mem_cons, Argument.name.injEq, reduceCtorEq, List.not_mem_nil, or_self,
        or_false] at named
      rw [named, String.toList_ofList]
  unfold ofKeyword at read
  split at read
  · exact alone (fun x => rfl) read
  · exact alone (fun x => rfl) read
  all_goals cases read
  any_goals exact absurd named List.not_mem_nil
  all_goals
    rw [Argument.name.inj (List.mem_singleton.mp named), String.toList_ofList]
    rfl

/-- A segment with a name in its command begins with a keyword and the name. -/
theorem words?_of_parse (parsed : parse segment = .ok c) (named : .name name ∈ c.arguments) :
    ∃ word k rest, Token.words? segment.toList = some (word :: name.toList :: rest) ∧
      Keyword.ofWord? word = some k := by
  unfold parse at parsed
  split at parsed
  · next words read =>
    cases words with
    | nil => cases parsed
    | cons word arguments =>
      rw [ofWords] at parsed
      split at parsed
      · next k keyword =>
        obtain ⟨rest, rfl⟩ := List.head?_eq_some_iff.mp (head?_of_ofKeyword parsed named)
        exact ⟨word, k, rest, read, keyword⟩
      · cases parsed
  · cases parsed

/-- In a segment that is not cut, the second word is addressable if there are no marks in the
first. -/
theorem addressable_of_words? {cs word : List Char} {rest : List (List Char)}
    (whole : Script.piecesFrom false cs = [cs]) (noMark : '"' ∉ word)
    (read : Token.words? cs = some (word :: name.toList :: rest)) : Name.Addressable name := by
  obtain ⟨gap, text, behind, rfl, blank, spelled, read⟩ := Token.exists_spelled read
  obtain ⟨gap', text', behind, rfl, blank', spelled', -⟩ := Token.exists_spelled read
  cases spelled' with
  | quoted noMark => exact .quoted noMark
  | bare nonempty visible first =>
    refine .bare (fun c mem => Name.isBlank_eq_false_iff.mp (visible c mem)) first ?_
    intro before after split
    -- the marks before the semicolon are those of the first word and those in the name
    have split' : gap ++ (text ++ (gap' ++ (name.toList ++ behind))) =
        (gap ++ (text ++ (gap' ++ before))) ++ ';' :: (after ++ behind) := by
      simp [split]
    have odd := (Script.whole_iff_odd.mp whole).2 _ _ split'
    have even := spelled.even_count noMark
    simp only [List.count_append, Script.count_quote_of_blank blank,
      Script.count_quote_of_blank blank', Nat.zero_add] at odd
    exact (Nat.odd_add'.mp odd).mpr even

/-- **Whatever command a name is in, the name is addressable.** -/
theorem addressable_of_parse {script : String} (mem : segment ∈ Script.segments script)
    (parsed : parse segment = .ok c) (named : .name name ∈ c.arguments) :
    Name.Addressable name := by
  obtain ⟨cs, found, rfl⟩ := List.mem_map.mp mem
  have whole := Script.piecesFrom_of_mem_segmentsOf found
  obtain ⟨word, k, rest, read, keyword⟩ := words?_of_parse parsed named
  rw [String.toList_ofList] at read
  exact addressable_of_words? whole (Keyword.mark_notMem_of_ofWord? keyword) read

/-! ### Scripts for names -/

/-- A name without marks can be asked for in quotation marks. -/
theorem exists_script_of_quoted (noMark : '"' ∉ name.toList) (oneLine : '\n' ∉ name.toList) :
    ∃ script, (Script.segments script).map parse = [.ok (.get name)] := by
  have quotable : (Command.get name).Quotable := by
    intro a mem
    obtain rfl := List.mem_singleton.mp mem
    exact ⟨noMark, oneLine⟩
  obtain ⟨text, written⟩ := exists_written quotable
  have nothing : Script.Padding [] := by decide
  have segment := Script.segmentsOf_last written nothing
  obtain ⟨d, parsed, same⟩ := parse_written written
  obtain rfl : Command.get name = d := same
  refine ⟨String.ofList text, ?_⟩
  rw [List.append_nil] at segment
  simp [Script.segments, segment, parsed]

/-- A name that the cut leaves whole can be asked for as it is. -/
theorem exists_script_of_bare (nonempty : name.toList ≠ [])
    (visible : ∀ c ∈ name.toList, Text.isBlank c = false) (first : name.toList.head? ≠ some '"')
    (odd : ∀ before after, name.toList = before ++ ';' :: after → Odd (before.count '"')) :
    ∃ script, (Script.segments script).map parse = [.ok (.get name)] := by
  let text := ['g', 'e', 't'] ++ ([' '] ++ name.toList)
  have spelled : String.ofList (['g', 'e', 't'].map Char.toLower) ∈ Keyword.get.spellings := by
    decide
  obtain ⟨present, bare⟩ := Keyword.isBare_of_spelled spelled
  have blank : Gap [' '] := by decide
  have words : Token.words? text = some [['g', 'e', 't'], name.toList] := by
    have spelled := Token.Spelled.bare nonempty visible first
    have alone := spelled.scan Token.follows_nil
    rw [List.append_nil] at alone
    exact Token.scan_bare present bare (Token.follows_gap blank alone)
  have whole : Script.piecesFrom false text = [text] := by
    have front : Script.Uncut false (['g', 'e', 't'] ++ [' ']) false :=
      (Script.uncut_of_isBare bare).append (Script.uncut_of_isBlank blank.2)
    have oneLine : '\n' ∉ name.toList := by
      intro mem
      exact absurd (visible _ mem) (by decide)
    have behind := Script.whole_iff_odd.mpr ⟨oneLine, odd⟩
    simp only [text, ← List.append_assoc]
    rw [front, behind, List.modifyHead_cons]
  have ends : Text.Sealed text := by
    have last : Text.Sealed name.toList := ⟨_, _, (List.dropLast_append_getLast nonempty).symm,
      visible _ (List.getLast_mem nonempty)⟩
    exact (last.append _).append _
  have segment : Script.segmentsOf text = [text] :=
    Script.segmentsOf_of_whole whole (Text.trim_of_sealed (by decide) ends) rfl
  refine ⟨String.ofList text, ?_⟩
  rw [Script.segments, String.toList_ofList, segment, List.map_singleton, List.map_singleton, parse,
    String.toList_ofList, words]
  have read : ofWords [['g', 'e', 't'], name.toList] =
      .ok (.get (String.ofList name.toList)) := rfl
  rw [String.ofList_toList] at read
  simp only [read]

/-- **An addressable name can be asked for**, if it is well formed. -/
theorem exists_script_of_addressable (good : Name.fault? name = none)
    (addressable : Name.Addressable name) :
    ∃ script, (Script.segments script).map parse = [.ok (.get name)] := by
  have wellFormed := Name.fault?_eq_none_iff.mp good
  cases addressable with
  | quoted noMark =>
    refine exists_script_of_quoted noMark ?_
    intro mem
    exact absurd (wellFormed.allowed _ mem) (by decide)
  | bare visible first odd =>
    have nonempty : name.toList ≠ [] := by
      rw [ne_eq, String.toList_eq_nil_iff]
      exact wellFormed.nonempty
    have noBlank : ∀ c ∈ name.toList, Text.isBlank c = false := fun c mem =>
      Name.isBlank_eq_false_iff.mpr (visible c mem)
    exact exists_script_of_bare nonempty noBlank first odd

end Command

/-- **The names that a script can ask for are the addressable ones.**  No other name is in any
command of any script, so that a cell whose name has both a mark and a blank in it is out of reach
for scripts. -/
theorem name_addressable_iff {name : String} (good : Name.fault? name = none) :
    ((∃ script, (Script.segments script).map Command.parse = [.ok (.get name)]) ↔
      Name.Addressable name) ∧
    (∀ script, ∀ segment ∈ Script.segments script, ∀ c, Command.parse segment = .ok c →
      .name name ∈ c.arguments → Name.Addressable name) ∧
    ('"' ∈ name.toList → (∃ c ∈ name.toList, Name.WhiteSpace c) → ¬ Name.Addressable name) := by
  refine ⟨⟨?_, Command.exists_script_of_addressable good⟩, ?_, Name.not_addressable⟩
  · rintro ⟨script, parsed⟩
    obtain ⟨segment, segments, parsed⟩ := List.map_eq_singleton_iff.mp parsed
    have mem : segment ∈ Script.segments script := by
      rw [segments]
      exact List.mem_singleton_self segment
    exact Command.addressable_of_parse mem parsed List.mem_cons_self
  · intro script segment mem c parsed named
    exact Command.addressable_of_parse mem parsed named

/-- Two marks around a semicolon: with the first in front of it the name can be asked for, with both
behind it no command holds the name. -/
theorem name_addressable_iff_semicolon :
    (∃ script, (Script.segments script).map Command.parse = [.ok (.get "net\";\"")]) ∧
      ¬ (∃ script, (Script.segments script).map Command.parse = [.ok (.get "net;\"\"")]) ∧
      ∀ script, ∀ segment ∈ Script.segments script,
        Command.parse segment ≠ .ok (.remove "net \"0\"") := by
  have within : Name.fault? "net\";\"" = none := by decide
  have behind : Name.fault? "net;\"\"" = none := by decide
  have spaced : Name.fault? "net \"0\"" = none := by decide
  refine ⟨?_, ?_, ?_⟩
  · have whole : Script.piecesFrom false "net\";\"".toList = ["net\";\"".toList] := by decide
    have visible : ∀ c ∈ "net\";\"".toList, ¬ Name.WhiteSpace c := by simp [Name.WhiteSpace]
    have odd := (Script.whole_iff_odd.mp whole).2
    exact (name_addressable_iff within).1.mpr (.bare visible (by decide) odd)
  · rw [(name_addressable_iff behind).1]
    intro addressable
    cases addressable with
    | quoted noMark => exact noMark (by decide)
    | bare visible first odd => exact absurd (odd "net".toList "\"\"".toList rfl) (by decide)
  · intro script segment mem parsed
    obtain ⟨-, named, blank⟩ := name_addressable_iff spaced
    exact blank (by decide) ⟨' ', by decide, by decide⟩
      (named script segment mem _ parsed List.mem_cons_self)

end NamedCells
