import PullNotes.Source.ClassBody

/-!
# Statements

Statements and declarations.  A word that starts a statement of its own may in many cases also be a
name, so where the statement does not go on as it should the word is read as an expression.
-/

namespace PullNotes

namespace Source

namespace Reader

/-! ### Declarations -/

/-- A name that is declared, with a type and a value or without. -/
def declarator (rules : Rules) : Reader :=
  node "variable_declarator" (seq [rules .binding, maybe (typed (symbol "!")),
    maybe (typed (rules .ascription)), maybe (seq [symbol "=", rules .expression])])

/-- The words that declare names. -/
def declaringWords : List String := ["const", "let", "var", "using"]

/-- Declared names, without the end of the statement. -/
def declarators (rules : Rules) : Reader :=
  seq [first [first (declaringWords.map word), seq [word "await", word "using"]],
    separated (symbol ",") (declarator rules)]

/-- A declaration of names. -/
def declaration (rules : Rules) : Reader :=
  node "lexical_declaration" (seq [declarators rules, semicolon])

/-- A declaration of a function; in the typed dialects it may be without a body. -/
def functionDeclaration (rules : Rules) : Reader :=
  seq [functionHead, maybe (symbol "*"), identifier, rules .signature,
    first [body rules, typed signatureEnd]] |> node "function_declaration"

/-- A declaration of a class. -/
def classDeclaration (rules : Rules) : Reader :=
  node "class_declaration" (seq [many (rules .decorator), maybe (typed (word "abstract")),
    word "class", identifier, rules .classBody])

/-! ### Declarations of types -/

/-- A declaration of an interface. -/
def interfaceDeclaration (rules : Rules) : Reader :=
  node "interface_declaration" (seq [word "interface", anyName "type_identifier",
    maybe (rules .typeParameters), maybe (seq [word "extends", listed (rules .type)]),
    objectType rules])

/-- A declaration of a name for a type. -/
def aliasDeclaration (rules : Rules) : Reader :=
  node "type_alias_declaration" (seq [word "type", anyName "type_identifier",
    maybe (rules .typeParameters), symbol "=", rules .type, semicolon])

/-- A declaration of an enumeration. -/
def enumDeclaration (rules : Rules) : Reader :=
  node "enum_declaration" (seq [maybe (word "const"), word "enum", identifier,
    node "enum_body" (within true (seq [symbol "\x7b", maybe (listed
      (seq [propertyName rules, maybe (seq [symbol "=", rules .expression])])), symbol "\x7d"]))])

/-- A declaration of a module or a name space. -/
def moduleDeclaration (rules : Rules) : Reader :=
  node "module" (seq [first [word "module", word "namespace"],
    first [rules .string, dottedName "identifier"],
    first [rules .block, semicolon]])

/-- A declaration of something that is defined elsewhere. -/
def ambientDeclaration (rules : Rules) : Reader :=
  node "ambient_declaration" (seq [word "declare",
    check fun _ s => !s.name.isEmpty && !s.afterLine,
    first [seq [word "global", rules .block], rules .statement]])

/-- The declarations of the typed dialects. -/
def typedDeclaration (rules : Rules) : Reader :=
  first [interfaceDeclaration rules, aliasDeclaration rules, enumDeclaration rules,
    moduleDeclaration rules, ambientDeclaration rules, classDeclaration rules]

/-! ### Imports and exports -/

/-- The attributes of an import. -/
def importAttributes (rules : Rules) : Reader :=
  node "import_attribute" (seq [first [word "with", word "assert"], rules .object])

/-- The module that something comes from. -/
def moduleName (rules : Rules) : Reader := seq [word "from", rules .string]

/-- A name on either side of an import or an export. -/
def moduleItem (rules : Rules) : Reader :=
  let name := first [anyName "identifier", rules .string]
  node "module_specifier" (seq [
    maybe (typed (seq [first [word "type", word "typeof"], check fun _ s =>
      !s.name.isEmpty && s.name != "as".toList])),
    name, maybe (seq [word "as", name])])

/-- Names in braces. -/
def moduleItems (rules : Rules) : Reader :=
  within true (seq [symbol "\x7b", sparse (moduleItem rules), symbol "\x7d"])

/-- An import. -/
def importStatement (rules : Rules) : Reader :=
  let everything := seq [symbol "*", word "as", identifier]
  let typeWord := maybe (typed (seq [first [word "type", word "typeof"],
    check fun _ s => s.name != "from".toList]))
  node "import_statement" (seq [word "import", first [
    seq [typed (maybe (word "type")), identifier, symbol "=", first [
      seq [word "require", symbol "(", rules .string, symbol ")"],
      dottedName "identifier"]],
    seq [typeWord, first [everything, moduleItems rules,
      seq [identifier, maybe (seq [symbol ",", first [everything, moduleItems rules]])]],
      moduleName rules, maybe (importAttributes rules)],
    seq [rules .string, maybe (importAttributes rules)]], semicolon])

/-- An export. -/
def exportStatement (rules : Rules) : Reader :=
  node "export_statement" (seq [many (rules .decorator), word "export", first [
    seq [symbol "*", maybe (seq [word "as", first [anyName "identifier", rules .string]]),
      moduleName rules, maybe (importAttributes rules), semicolon],
    seq [maybe (typed (word "type")), moduleItems rules,
      maybe (seq [moduleName rules, maybe (importAttributes rules)]), semicolon],
    seq [word "default", first [
      functionDeclaration rules, classDeclaration rules, typed (interfaceDeclaration rules),
      seq [rules .expression, semicolon]]],
    typed (seq [symbol "=", rules .expression, semicolon]),
    typed (seq [word "as", word "namespace", anyName "identifier", semicolon]),
    seq [check fun _ s => !s.name.isEmpty || s.symbol == ['@'], rules .statement]]])

/-! ### Control -/

/-- An expression in parentheses after a word. -/
def condition (rules : Rules) : Reader := parenthesized rules

/-- A choice. -/
def ifStatement (rules : Rules) : Reader :=
  node "if_statement" (seq [word "if", condition rules, rules .statement,
    maybe (node "else_clause" (seq [word "else", rules .statement]))])

/-- A case of a switch. -/
def switchCase (rules : Rules) : Reader :=
  node "switch_case" (seq [
    first [seq [word "case", rules .expressions], word "default"], symbol ":",
    many (seq [check fun ctx s => !atWord ["case".toList, "default".toList] ctx s,
      rules .statement])])

/-- A choice among cases. -/
def switchStatement (rules : Rules) : Reader :=
  node "switch_statement" (seq [word "switch", condition rules,
    node "switch_body" (within false (seq [symbol "\x7b", many (switchCase rules),
      symbol "\x7d"]))])

/-- What a loop over the members or elements of something gives them to.  Only a variable of the old
kind may have a value before, and `in` ends that value. -/
def loopTarget (rules : Rules) : Reader :=
  first [
    seq [word "var", rules .binding, maybe (seq [symbol "=", withoutIn (rules .expression)])],
    seq [first [first (["let", "const", "using"].map word), seq [word "await", word "using"]],
      rules .binding],
    rules .pattern]

/-- A loop over the members or elements of something. -/
def forEach (rules : Rules) : Reader :=
  node "for_in_statement" (seq [word "for", maybe (word "await"), within true (seq [symbol "(",
    loopTarget rules, first [word "in", word "of"], rules .expressions, symbol ")"]),
    rules .statement])

/-- A loop with a start, a condition and a step. -/
def forLoop (rules : Rules) : Reader :=
  node "for_statement" (seq [word "for", within true (seq [symbol "(",
    maybe (first [declarators rules, rules .expressions]), symbol ";",
    maybe (rules .expressions), symbol ";", maybe (rules .expressions), symbol ")"]),
    rules .statement])

/-- A loop with a condition in front. -/
def whileLoop (rules : Rules) : Reader :=
  node "while_statement" (seq [word "while", condition rules, rules .statement])

/-- A loop with a condition at the end. -/
def doLoop (rules : Rules) : Reader :=
  node "do_statement" (seq [word "do", rules .statement, word "while", condition rules,
    maybe semicolon])

/-- Statements whose errors are caught. -/
def tryStatement (rules : Rules) : Reader :=
  node "try_statement" (seq [word "try", rules .block,
    maybe (node "catch_clause" (seq [word "catch", maybe (within true (seq [symbol "(",
      rules .binding, maybe (typed (rules .ascription)), symbol ")"])), rules .block])),
    maybe (node "finally_clause" (seq [word "finally", rules .block]))])

/-- A statement within an object. -/
def withStatement (rules : Rules) : Reader :=
  node "with_statement" (seq [word "with", condition rules, rules .statement])

/-- A word with something after it, unless the statement is over. -/
def jump (kind text : String) (target : Reader) : Reader :=
  node kind (seq [word text, choose (semicolonImplied false) done (seq [maybe target, semicolon])])

/-! ### Statements -/

/-- An expression as a statement; the words that start a declaration of a type alone start none. -/
def expressionStatement (rules : Rules) : Reader :=
  node "expression_statement" (seq [
    check fun ctx s => !(ctx.dialect.isTyped && typedStartingWords.any fun w => w.toList == s.name),
    rules .expressions, semicolon])

/-- A statement with a label, which is no word that starts a statement. -/
def labeled (rules : Rules) : Reader :=
  node "labeled_statement" (seq [
    check fun ctx s => !(startingWordsOf ctx.dialect).any fun w => w.toList == s.name,
    identifier, symbol ":", rules .statement])

/-- What a statement may be that starts with a word. -/
def wordStatements (rules : Rules) : List (String × Reader) := [
  ("import", importStatement rules), ("export", exportStatement rules),
  ("debugger", jump "debugger_statement" "debugger" fail), ("if", ifStatement rules),
  ("switch", switchStatement rules), ("for", first [forEach rules, forLoop rules]),
  ("while", whileLoop rules), ("do", doLoop rules), ("try", tryStatement rules),
  ("with", withStatement rules), ("break", jump "break_statement" "break" identifier),
  ("continue", jump "continue_statement" "continue" identifier),
  ("return", jump "return_statement" "return" (rules .expressions)),
  ("throw", node "throw_statement" (seq [word "throw", rules .expressions, semicolon])),
  ("function", functionDeclaration rules), ("async", functionDeclaration rules),
  ("class", classDeclaration rules),
  ("const", first [typed (enumDeclaration rules), declaration rules]),
  ("let", declaration rules), ("var", declaration rules), ("using", declaration rules),
  ("await", declaration rules)]

/-- Statements in braces. -/
def block (rules : Rules) : Reader :=
  node "statement_block" (within false (seq [symbol "\x7b", many (rules .statement),
    symbol "\x7d"]))

/-- A statement that starts with a name. -/
def namedStatement (rules : Rules) : Reader := fun ctx s =>
  let own := (wordStatements rules).filterMap fun (text, p) =>
    if s.name = text.toList then some p else none
  first (own ++ [typed (typedDeclaration rules), labeled rules, expressionStatement rules]) ctx s

/-- A comment of a page, which is passed over between statements. -/
def pageComment : Reader := token "html_comment" Lexeme.pageComment

/-- A statement. -/
def statement (rules : Rules) : Reader :=
  seq [many pageComment,
    choose (fun _ s => !s.name.isEmpty) (namedStatement rules)
      (choose (atSymbol "\x7b")
        (first [seq [check atLooseObject, expressionStatement rules], rules .block])
        (choose (atSymbol ";") (node "empty_statement" (symbol ";"))
          (choose (atSymbol "@")
            (first [exportStatement rules, classDeclaration rules, expressionStatement rules])
            (expressionStatement rules))))]

end Reader

end Source

end PullNotes
