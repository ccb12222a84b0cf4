import PatchCompiler.Template.Basic

/-!
# Declarations of a program

The files that declare a program: its class, and its functions and names for use from outside.
-/

namespace PatchCompiler.Sheet

def enumeration (path first line last : String) : Piece :=
  .when (.any path) [.text [first], .entries path [.text [line]], .text [last]]

def innerEnumeration (path first : String) : Piece :=
  enumeration path (first ++ " : hv_uint32_t \x7b") "\n        `k|upper` = `v.hash`, // `v.display`"
    "\n      \x7d;\n    \x7d;"

def outerEnumeration (path first word last : String) : Piece :=
  enumeration path first ("\n  HV_`name|upper`_" ++ word ++ "_`k|upper` = `v.hash`, // `v.display`")
    ("\n\x7d Hv_`name`_" ++ last)

def classHeader : Template :=
  [.text ["`copyright`\n\n#ifndef _HEAVY_CONTEXT_`name|upper`_HPP_",
     "#define _HEAVY_CONTEXT_`name|upper`_HPP_\n\n// object includes",
     "#include \"HeavyContext.hpp\""],
   .for_ ["i"] (.name "include_set") [.text ["\n#include \"`i`\""]],
   .text ["\n\nclass Heavy_`name` : public HeavyContext \x7b\n
 public:
  Heavy_`name`(double sampleRate, int poolKb=10, int inQueueKb=2, int outQueueKb=0);
  ~Heavy_`name`();\n
  const char *getName() override \x7b return \"`name`\"; \x7d
  int getNumInputChannels() override \x7b return `signal.numInputBuffers`; \x7d
  int getNumOutputChannels() override \x7b return `signal.numOutputBuffers`; \x7d\n
  int process(float **inputBuffers, float **outputBuffer, int n) override;
  int processInline(float *inputBuffers, float *outputBuffer, int n) override;
  int processInlineInterleaved(float *inputBuffers, float *outputBuffer, int n) override;\n
  int getParameterInfo(int index, HvParameterInfo *info) override;"],
   .when (.or (.any "externs.parameters.in") (.any "externs.parameters.out"))
     [.text ["\n  struct Parameter \x7b\n    "],
      innerEnumeration "externs.parameters.in" "struct In \x7b\n      enum ParameterIn",
      innerEnumeration "externs.parameters.out" "\n    struct Out \x7b\n      enum ParameterOut",
      .text ["\n  \x7d;"]],
   .when (.or (.any "externs.events.in") (.any "externs.events.out"))
     [.text ["\n  struct Event \x7b"],
      innerEnumeration "externs.events.in" "\n    struct In \x7b\n      enum EventIn",
      innerEnumeration "externs.events.out" "\n    struct Out \x7b\n      enum EventOut",
      .text ["\n  \x7d;"]],
   enumeration "externs.tables" "\n  enum Table : hv_uint32_t \x7b"
     "\n    `k|upper` = `v.hash`, // `v.display`" "\n  \x7d;",
   .text ["\n
 private:
  HvTable *getTableForHash(hv_uint32_t tableHash) override;
  void scheduleMessageForReceiver(hv_uint32_t receiverHash, HvMessage *m) override;\n
  // static sendMessage functions"],
   .for_ ["d"] (.name "decl_list") [.text ["\n  static void `d`"]],
   .text ["\n\n  // objects"],
   .for_ ["d"] (.name "def_list") [.text ["\n  `d`"]],
   .text ["\n\x7d;\n\n#endif // _HEAVY_CONTEXT_`name|upper`_HPP_\n"]]

def header : Template :=
  [.text ["`copyright`\n\n#ifndef _HEAVY_`name|upper`_H_\n#define _HEAVY_`name|upper`_H_\n",
     "#include \"HvHeavy.h\"\n\n#ifdef __cplusplus\nextern \"C\" \x7b\n#endif\n\n#if HV_APPLE",
     "#pragma mark - Heavy Context\n#endif\n\n"],
   outerEnumeration "externs.parameters.in" "typedef enum \x7b" "PARAM_IN" "ParameterIn;\n",
   outerEnumeration "externs.parameters.out" "\ntypedef enum \x7b" "PARAM_OUT" "ParameterOut;\n",
   outerEnumeration "externs.events.in" "\ntypedef enum \x7b" "EVENT_IN" "EventIn;\n",
   outerEnumeration "externs.events.out" "\ntypedef enum \x7b" "EVENT_OUT" "EventOut;\n",
   outerEnumeration "externs.tables" "\ntypedef enum \x7b" "TABLE" "Table;",
   .text ["\n\n/**
 * Creates a new patch instance.
 * Sample rate should be positive and in Hertz, e.g. 44100.0.
 */\nHeavyContextInterface *hv_`name`_new(double sampleRate);\n\n/**
 * Creates a new patch instance.
 * @param sampleRate  Sample rate should be positive (> 0) and in Hertz, e.g. 48000.0.
 * @param poolKb  Pool size is in kilobytes, and determines the maximum amount of memory
 *   allocated to messages at any time. By default this is 10 KB.
 * @param inQueueKb  The size of the input message queue in kilobytes. It determines the
 *   amount of memory dedicated to holding scheduled messages between calls to
 *   process(). Default is 2 KB.
 * @param outQueueKb  The size of the output message queue in kilobytes. It determines the
 *   amount of memory dedicated to holding scheduled messages to the default sendHook.
 *   See getNextSentMessage() for info on accessing these messages. Default is 0 KB.
 */",
     "HeavyContextInterface *hv_`name`_new_with_options(double sampleRate, int poolKb, int inQueueKb, int outQueueKb);",
     "\n/**
 * Free the patch instance.
 */\nvoid hv_`name`_free(HeavyContextInterface *instance);\n\n\n#ifdef __cplusplus",
     "\x7d // extern \"C\"\n#endif\n\n#endif // _HEAVY_`name|upper`_H_\n"]]

end PatchCompiler.Sheet
