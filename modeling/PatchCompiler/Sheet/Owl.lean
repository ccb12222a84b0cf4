import PatchCompiler.Sheet.Midi

/-!
# Sheets for effect pedals

The patch class and the constants of a program for an effect pedal.
-/

namespace PatchCompiler.Sheet

def isButton (b : Bool) : Formula :=
  .operation .equal (.name "button") (.truth b)

def isOf (type : String) : Formula :=
  .operation .equal (.name "typ") (.text type)

def channels (condition : Formula) (body : List Piece) : Piece :=
  .each ["param", "name", "typ", "namehash", "minvalue", "maxvalue", "defvalue", "button"]
    (.name "jdata") condition body

def defaultShare : Piece :=
  .value (.operation .divide (.operation .subtract (.name "defvalue") (.name "minvalue"))
    (.operation .subtract (.name "maxvalue") (.name "minvalue")))

def heardAs (status hash : String) (values : List String) : String :=
  s!"    case {status}:\n      context->sendMessageToReceiverV\n\t(HV_HASH_{hash}, 0, \"" ++
    String.join (values.map fun _ => "f") ++ "f\"," ++
    String.join (values.map fun value => s!"\n\t {value}") ++
    "\n\t (float)msg.getChannel());\n      break;"

def owlPatch : Template :=
  [.text ["`copyright`\n\n#ifndef __HeavyPatch_hpp__\n#define __HeavyPatch_hpp__\n",
     "#include \"Patch.h\"\n#include \"basicmaths.h\"\n#include \"HvHeavy.h\"",
     "#include \"Heavy_`name`.hpp\"\n#include \"HeavyOwlConstants.h\"\n",
     "#define BUTTON_Push PUSHBUTTON\n#define BUTTON_B1 BUTTON_A\n#define BUTTON_B2 BUTTON_B",
     "#define BUTTON_B3 BUTTON_C\n#define BUTTON_B4 BUTTON_D\n#define BUTTON_B5 BUTTON_E",
     "#define BUTTON_B6 BUTTON_F\n#define BUTTON_B7 BUTTON_G\n#define BUTTON_B8 BUTTON_H\n",
     ""], .text midiHashes,
   .text ["",
     "",
     "#define HEAVY_MESSAGE_POOL_SIZE  4 // in kB (default 10kB)",
     "#define HEAVY_MESSAGE_IN_QUEUE_SIZE 1 // in kB (default 2kB)",
     "#define HEAVY_MESSAGE_OUT_QUEUE_SIZE 0 // in kB (default 0kB)\n\nextern \"C\" \x7b
  volatile bool _msgLock = false;
  static bool isButtonPressed(PatchButtonId bid)\x7b
    return getProgramVector()->buttons & (1<<bid);
  \x7d
  static void setButton(PatchButtonId bid, bool pressed)\x7b
    if(pressed)
      getProgramVector()->buttons |= 1<<bid;
    else
      getProgramVector()->buttons &= ~(1<<bid);
  \x7d
  static void owlPrintHook(HeavyContextInterface* ctxt,\n\t\t\t   const char *printLabel,",
     "\t\t\t   const char *msgString,\n\t\t\t   const HvMessage *m) \x7b
    char buf[64];
    char* dst = buf;
    int len = strnlen(printLabel, 48);
    dst = stpncpy(dst, printLabel, len);
    dst = stpcpy(dst, \" \");
    dst = stpncpy(dst, msgString, 63-len);
    debugMessage(buf);
  \x7d
  static void owlSendHook(HeavyContextInterface* ctxt,\n\t\t\t  const char *receiverName,",
     "\t\t\t  uint32_t sendHash,\n\t\t\t  const HvMessage *m);\n\x7d\n",
     "class HeavyPatch : public Patch \x7b\npublic:
  HeavyPatch() \x7b
    context = new Heavy_owl(getSampleRate(),\n\t\t\t    HEAVY_MESSAGE_POOL_SIZE,",
     "\t\t\t    HEAVY_MESSAGE_IN_QUEUE_SIZE,\n\t\t\t    HEAVY_MESSAGE_OUT_QUEUE_SIZE);
    context->setUserData(this);
    context->setPrintHook(&owlPrintHook);
    context->setSendHook(&owlSendHook);\n    "],
   channels (isButton false)
     [.text ["
    // `name`
    registerParameter(PARAMETER_`param`, HV_NAME_CHANNEL_`param`);
    setParameterValue(PARAMETER_`param`, HV_DEFAULT_CHANNEL_`param`);\n    "]],
   .text ["
  \x7d\n
  ~HeavyPatch() \x7b
    delete context;
  \x7d\n
  uint16_t getButtonValue(PatchButtonId bid, const HvMessage *m)\x7b
    if(hv_msg_getNumElements(m) > 0 && hv_msg_isFloat(m, 0))
      return hv_msg_getFloat(m, 0) > 0.5 ? 4095 : 0;
    else
      return isButtonPressed(bid) ? 0 : 4095; // toggle
  \x7d\n
  void sendCallback(uint32_t sendHash, const HvMessage *m)\x7b
    switch(sendHash)\x7b
    case HV_HASH_NOTEOUT:
      \x7b
      uint8_t note = hv_msg_getFloat(m, 0);
      uint8_t velocity = hv_msg_getFloat(m, 1);
      uint8_t ch = hv_msg_getFloat(m, 2);
      // debugMessage(\"noteout\", note, velocity, ch);
      sendMidi(MidiMessage::note(ch, note, velocity));
      \x7d
      break;
    case HV_HASH_CTLOUT:
      \x7b
      uint8_t value = hv_msg_getFloat(m, 0);
      uint8_t cc = hv_msg_getFloat(m, 1);
      uint8_t ch = hv_msg_getFloat(m, 2);
      // debugMessage(\"ctlout\", value, cc, ch);
      sendMidi(MidiMessage::cc(ch, cc, value));
      \x7d
      break;
    case HV_HASH_BENDOUT:
      \x7b
      uint16_t value = hv_msg_getFloat(m, 0);
      uint8_t ch = hv_msg_getFloat(m, 1);
      // debugMessage(\"bendout\", value, ch);
      sendMidi(MidiMessage::pb(ch, value));
      \x7d
      break;
    case HV_HASH_TOUCHOUT:
      sendMidi(MidiMessage::cp((uint8_t)hv_msg_getFloat(m, 1), (uint8_t)hv_msg_getFloat(m, 0)));
      break;
    case HV_HASH_PGMOUT:
      sendMidi(MidiMessage::pc((uint8_t)hv_msg_getFloat(m, 1), (uint8_t)hv_msg_getFloat(m, 0)));
      break;\n      "],
   channels (isOf "SEND")
     [.text ["\n      "],
      .choose (isButton true)
        [.text ["
    // Button `name`
    case HV_HASH_`typ`_CHANNEL_`param`:
      setButton(BUTTON_`param`, (hv_msg_getFloat(m, 0)-HV_MIN_CHANNEL_`param`)/",
           "\t\t(HV_MAX_CHANNEL_`param`-HV_MIN_CHANNEL_`param`) > 0.5);\n      "]]
        [.text ["
    // Parameter `name`
    case HV_HASH_`typ`_CHANNEL_`param`:
      setParameterValue(PARAMETER_`param`, (hv_msg_getFloat(m, 0)-HV_MIN_CHANNEL_`param`)/
  \t\t        (HV_MAX_CHANNEL_`param`-HV_MIN_CHANNEL_`param`));\n      "]],
      .text ["\n      break;\n      "]],
   .text ["
    default:
      break;
    \x7d
  \x7d\n
  void processMidi(MidiMessage msg)\x7b
    // sendMessageToReceiverV parses format and loops over args, see HeavyContext.cpp
    switch(msg.getStatus())\x7b",
     heardAs "CONTROL_CHANGE" "CTLIN" ["(float)msg.getControllerValue(), // value",
       "(float)msg.getControllerNumber(), // controller number"],
     heardAs "NOTE_ON" "NOTEIN" ["(float)msg.getNote(), // pitch",
       "(float)msg.getVelocity(), // velocity"],
     heardAs "NOTE_OFF" "NOTEIN" ["(float)msg.getNote(), // pitch", "0.0f, // velocity"],
     heardAs "CHANNEL_PRESSURE" "TOUCHIN" ["(float)msg.getChannelPressure(),"],
     heardAs "PITCH_BEND_CHANGE" "BENDIN" ["(float)msg.getPitchBend(),"],
     heardAs "PROGRAM_CHANGE" "PGMIN" ["(float)msg.getProgramChange(),"],
     "    default:
      break;
    \x7d
  \x7d\n
  void buttonChanged(PatchButtonId bid, uint16_t value, uint16_t samples)\x7b
    if(_msgLock)
      return;
    switch(bid)\x7b\n    "],
   channels (.and (isOf "RECV") (isButton true))
     [.text ["
    // `name`
    case BUTTON_`param`:
      context->sendFloatToReceiver(HV_HASH_`typ`_CHANNEL_`param`, isButtonPressed(BUTTON_`param`)*",
        "\t\t\t\t (HV_MAX_CHANNEL_`param`-HV_MIN_CHANNEL_`param`)+HV_MIN_CHANNEL_`param`);
      break;\n    "]],
   .text ["
    default:
      break;
    \x7d
  \x7d\n
  void processAudio(AudioBuffer &buffer) \x7b
    _msgLock = true;\n    "],
   channels (.and (isOf "RECV") (isButton false))
     [.text ["
    // `name`
      context->sendFloatToReceiver(HV_HASH_`typ`_CHANNEL_`param`, getParameterValue(PARAMETER_`param`)*",
        "\t\t\t\t (HV_MAX_CHANNEL_`param`-HV_MIN_CHANNEL_`param`)+HV_MIN_CHANNEL_`param`);\n    "]],
   .text ["\n
    _msgLock = false;
    float* outputs[] = \x7bbuffer.getSamples(LEFT_CHANNEL), buffer.getSamples(RIGHT_CHANNEL)\x7d;
    context->process(outputs, outputs, getBlockSize());
  \x7d\n\nprivate:
  HeavyContext* context;\n\x7d;\n\nstatic void owlSendHook(HeavyContextInterface* ctxt,",
     "\t\t\tconst char *receiverName,\n\t\t\tuint32_t sendHash,\n\t\t\tconst HvMessage *m)\x7b
  HeavyPatch* patch = (HeavyPatch*)ctxt->getUserData();
  patch->sendCallback(sendHash, m);\n\x7d\n\n#endif // __HeavyPatch_hpp__"]]

def owlConstants : Template :=
  [.text ["`copyright`\n\n"],
   channels (.truth true)
     [.text ["\n// `param` `name` `typ` `namehash` `minvalue` `maxvalue` `defvalue` "],
      defaultShare,
      .text ["\n#define HV_NAME_CHANNEL_`param` \"`name`\"",
        "#define HV_HASH_`typ`_CHANNEL_`param` `namehash`",
        "#define HV_MIN_CHANNEL_`param` `minvalue`\n#define HV_MAX_CHANNEL_`param` `maxvalue`",
        "#define HV_DEFAULT_CHANNEL_`param` "],
      defaultShare,
      .text ["\n"]]]

end PatchCompiler.Sheet
