/-!
# The dispatcher

The part of a generated module that does not depend on the catalog: the class that parses one
serialized call, or a list of them, with the classes generated before it.
-/

namespace ViewModifiers.Emit

/-- The lines of the dispatcher. -/
def dispatcherLines : List String := [
    "class BuiltinModifierParser:",
    "    \"\"\"",
    "    Parses one serialized modifier call into a ``BuiltinModifier``.",
    "",
    "    Order of precedence:",
    "    built-in modifiers, then text and image modifiers, then the host's",
    "    custom modifiers. Unknown and deprecated names surface as",
    "    ``ModifierParseError``.",
    "    \"\"\"",
    "",
    "    def __init__(self, context: ParseContext | None = None):",
    "        self.context = context or ParseContext()",
    "        register_types(self.context.registry)",
    "        self.parsers: dict[str, Any] = \x7b\x7d",
    "        for index, group in enumerate(CHUNKS):",
    "            for name, modifier in group.members.items():",
    "                self.parsers[name] = self._chunk_parser(f\"chunk\x7bindex\x7d\", group, modifier)",
    "        for case in EXTRA_MODIFIER_TYPES:",
    "            extra = self.context.extra_modifier_type(case)",
    "            self.parsers[extra.name] = self._extra_parser(case, extra)",
    "",
    "    def _chunk_parser(self, case: str, group: type[ModifierChunk], modifier: Any) -> Any:",
    "        def parse(cursor: TokenCursor) -> BuiltinModifier:",
    "            return BuiltinModifier(case, group(modifier.parse(cursor, self.context)))",
    "",
    "        return parse",
    "",
    "    def _extra_parser(self, case: str, extra: Any) -> Any:",
    "        def parse(cursor: TokenCursor) -> BuiltinModifier:",
    "            return BuiltinModifier(case, extra.parse(cursor, self.context))",
    "",
    "        return parse",
    "",
    "    def _parse_builtin(self, cursor: TokenCursor, name: str, metadata: Any) -> BuiltinModifier:",
    "        parser = self.parsers.get(name)",
    "        if parser is not None:",
    "            return parser(cursor)",
    "        if name in DEPRECATIONS:",
    "            raise ModifierParseError(DeprecatedModifier(name, DEPRECATIONS[name]), metadata)",
    "        raise ModifierParseError(UnknownModifier(name), metadata)",
    "",
    "    def parse(self, cursor: TokenCursor) -> BuiltinModifier:",
    "        name, metadata = peek_call_head(cursor)",
    "",
    "        builtin = attempt(",
    "            self._parse_builtin, cursor, name, metadata, errors=(Exception,)",
    "        )",
    "        if builtin.ok:",
    "            return builtin.value",
    "",
    "        text = attempt(_AnyTextModifierParser, cursor, self.context, errors=(Exception,))",
    "        if text.ok:",
    "            return BuiltinModifier(\"_anyTextModifier\", text.value)",
    "        image = attempt(_AnyImageModifierParser, cursor, self.context, errors=(Exception,))",
    "        if image.ok:",
    "            return BuiltinModifier(\"_anyImageModifier\", image.value)",
    "",
    "        custom = attempt(",
    "            self.context.custom_modifier_parser, cursor, self.context, errors=(Exception,)",
    "        )",
    "        if custom.ok:",
    "            return BuiltinModifier(\"_customRegistryModifier\", custom.value)",
    "        if isinstance(custom.error, ModifierParseError):",
    "            if name in DEPRECATIONS:",
    "                raise ModifierParseError(",
    "                    DeprecatedModifier(name, DEPRECATIONS[name]), metadata",
    "                ) from custom.error",
    "            raise custom.error",
    "        raise builtin.error from custom.error",
    "",
    "    def parse_text(self, text: str) -> BuiltinModifier:",
    "        \"\"\"Parse exactly one call from stylesheet text.\"\"\"",
    "        cursor = TokenCursor.from_text(text)",
    "        modifier = self.parse(cursor)",
    "        if not cursor.at_end:",
    "            raise cursor.error(f\"Unexpected \x7bcursor.peek().describe()\x7d after modifier\")",
    "        return modifier",
    "",
    "    def parse_list(self, text: str) -> list[BuiltinModifier]:",
    "        \"\"\"Parse a ``[call, call, ...]`` list from stylesheet text.\"\"\"",
    "        cursor = TokenCursor.from_text(text)",
    "        cursor.expect(TokenKind.LBRACKET, \"a modifier list\")",
    "        modifiers = []",
    "        while not cursor.at(TokenKind.RBRACKET):",
    "            modifiers.append(self.parse(cursor))",
    "            if not cursor.at(TokenKind.COMMA):",
    "                break",
    "            cursor.advance()",
    "        cursor.expect(TokenKind.RBRACKET)",
    "        if not cursor.at_end:",
    "            raise StylesheetParseError(",
    "                f\"Unexpected \x7bcursor.peek().describe()\x7d after modifier list\",",
    "                cursor.peek().line,",
    "                cursor.peek().column,",
    "            )",
    "        return modifiers"]

end ViewModifiers.Emit
