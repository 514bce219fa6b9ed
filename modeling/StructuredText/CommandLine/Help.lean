/-
# Help

The usage of the program and of each command, and the full help that is shown on request.  The
usage alone stands before a fault.
-/
import StructuredText.Release
import StructuredText.CommandLine.Switch

namespace StructuredText.CommandLine

/-- The name under which a command, or the program, is spoken of. -/
def title : Option Command → Text
  | none => Release.name
  | some c => Text.concat [Release.name, " ", c.name]

/-- Lines of text, each ended. -/
def paragraph (lines : List String) : Text :=
  Text.concat (lines.map fun line => Text.ofString line ++ [CodePoint.ofChar '\n'])

/-- How a command, or the program, is called. -/
def usage : Option Command → Text
  | none => paragraph ["usage: fmtkit [-h] \x7bjson,xml,sql\x7d ..."]
  | some .json => paragraph [
      "usage: fmtkit json [-h] [-o OUTPUT]",
      "                   [--style \x7bpretty,compact,sorted,minified,table,tree\x7d]",
      "                   [--indent \x7b2,4,8\x7d] [--sort-keys] [--escape-unicode]",
      "                   [--validate]",
      "                   [file]"]
  | some .xml => paragraph [
      "usage: fmtkit xml [-h] [-o OUTPUT] [--indent-unit INDENT_UNIT] [file]"]
  | some .sql => paragraph [
      "usage: fmtkit sql [-h] [-o OUTPUT]",
      "                  [--keyword-case \x7bupper,lower,capitalize,preserve\x7d]",
      "                  [--indent \x7b2,4,8\x7d] [--no-compact]",
      "                  [file]"]

/-- The lines on the file and the options that all commands share. -/
def sharedDetails : List String := [
  "",
  "positional arguments:",
  "  file                  输入文件（省略或 - 表示标准输入）",
  "",
  "options:",
  "  -h, --help            show this help message and exit",
  "  -o OUTPUT, --output OUTPUT",
  "                        写入文件而不是标准输出"]

/-- What is explained below the usage. -/
def details : Option Command → Text
  | none => paragraph [
      "",
      "JSON / XML / SQL 格式化工具",
      "",
      "positional arguments:",
      "  \x7bjson,xml,sql\x7d",
      "    json          JSON 美化 / 压缩 / 排序 / 投影",
      "    xml           XML 校验并重新缩进",
      "    sql           SQL 排版并压缩行数",
      "",
      "options:",
      "  -h, --help      show this help message and exit"]
  | some .json => paragraph (sharedDetails ++ [
      "  --style \x7bpretty,compact,sorted,minified,table,tree\x7d",
      "  --indent \x7b2,4,8\x7d",
      "  --sort-keys           递归排序键名",
      "  --escape-unicode      非 ASCII 字符转义为 \\uXXXX",
      "  --validate            只验证语法"])
  | some .xml => paragraph (sharedDetails ++ [
      "  --indent-unit INDENT_UNIT",
      "                        每层缩进的空格数（默认 2）"])
  | some .sql => paragraph (sharedDetails ++ [
      "  --keyword-case \x7bupper,lower,capitalize,preserve\x7d",
      "  --indent \x7b2,4,8\x7d",
      "  --no-compact          保留 sqlparse 的原始排版"])

/-- The help on a command, or on the program. -/
def help (c : Option Command) : Text := usage c ++ details c

/-- What is told about a fault. -/
def UsageFault.report (c : Option Command) (f : UsageFault) : Text :=
  usage c ++ title c ++ (": error: " : Text) ++ f.message ++ ("\n" : Text)

end StructuredText.CommandLine
